import ControlTower.Main
import ControlTower.Phraseology.Colouring
import ControlTower.Proofs.Airspace.Obedience
import ControlTower.Proofs.Airspace.Queue
import ControlTower.Proofs.Phraseology.Addressing
import ControlTower.Proofs.Airspace.Course
import ControlTower.Proofs.Airspace.Safety
import ControlTower.Proofs.Airspace.Endings
import ControlTower.Proofs.Desk.Transcript
import ControlTower.Proofs.Desk.Submission
import ControlTower.Proofs.Desk.Answers
import ControlTower.Proofs.Airspace.Separation
import ControlTower.Proofs.Phraseology.Continuation
import ControlTower.Proofs.Phraseology.Condensed
import ControlTower.Proofs.Airspace.Departures
import ControlTower.Proofs.Phraseology.Loosening
import ControlTower.Proofs.Phraseology.Rewording
import ControlTower.Proofs.Phraseology.Retyping
import ControlTower.Proofs.Desk.Work
import ControlTower.Proofs.Desk.Assignment
import ControlTower.Proofs.Desk.Typing
import ControlTower.Proofs.Desk.Printout
import ControlTower.Proofs.Desk.Attendance
import ControlTower.Proofs.Desk.Replies
import ControlTower.Proofs.Desk.Snapshot
import ControlTower.Proofs.Airspace.Landings
import ControlTower.Proofs.Desk.Completion
import ControlTower.Proofs.Airspace.Schedule
import ControlTower.Proofs.Desk.Recompletion
import ControlTower.Proofs.Desk.Gluing
import ControlTower.Proofs.Desk.Finished
import ControlTower.Proofs.Desk.Panel
import ControlTower.Proofs.Desk.History
import ControlTower.Proofs.Desk.Editing
import ControlTower.Proofs.Text.CommonPrefix
import ControlTower.Proofs.Phraseology.Cursor
import ControlTower.Proofs.Phraseology.Colouring
