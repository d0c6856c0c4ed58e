import SessionPool.Adapter.Family
import SessionPool.Crew.Rehearsal
import SessionPool.Simulation.Console
import SessionPool.Proofs.Table
import SessionPool.Proofs.WaitQueue
import SessionPool.Proofs.Crew
import SessionPool.Proofs.Stake
import SessionPool.Proofs.Charge
import SessionPool.Proofs.Admission
import SessionPool.Proofs.Session
import SessionPool.Proofs.Books
import SessionPool.Proofs.Entry
import SessionPool.Proofs.ToppingUp
import SessionPool.Proofs.Service
import SessionPool.Proofs.Upkeep
import SessionPool.Proofs.Handling
import SessionPool.Proofs.Tending
import SessionPool.Proofs.Clock
import SessionPool.Proofs.Process
import SessionPool.Proofs.Conduct
import SessionPool.Proofs.Move
import SessionPool.Proofs.Share
import SessionPool.Proofs.Act
import SessionPool.Proofs.Run
import SessionPool.Proofs.Accounting
import SessionPool.Proofs.Capacity
import SessionPool.Proofs.Line
import SessionPool.Proofs.Arrival
import SessionPool.Proofs.Errand
import SessionPool.Proofs.Answer
import SessionPool.Proofs.Supply
import SessionPool.Proofs.Chronicle
import SessionPool.Proofs.Clean
import SessionPool.Proofs.Calm
import SessionPool.Proofs.Freeing
import SessionPool.Proofs.Closed
import SessionPool.Proofs.Expiry
import SessionPool.Proofs.Excess
import SessionPool.Proofs.Staff
import SessionPool.Proofs.Configuring
import SessionPool.Proofs.Roll
import SessionPool.Proofs.Closure
import SessionPool.Proofs.Change
import SessionPool.Proofs.Powers
import SessionPool.Proofs.Course
import SessionPool.Proofs.Readiness
import SessionPool.Proofs.Departure
import SessionPool.Proofs.Passing
import SessionPool.Proofs.Turn
import SessionPool.Proofs.Restaff
import SessionPool.Proofs.Release
import SessionPool.Proofs.Told
import SessionPool.Proofs.Attempts
import SessionPool.Proofs.Causes
import SessionPool.Proofs.TaskOrder
import SessionPool.Proofs.OpenSessions
import SessionPool.Proofs.Overlay
import SessionPool.Proofs.Histogram
import SessionPool.Proofs.Tally
import SessionPool.Proofs.Creator
import SessionPool.Proofs.Counting
import SessionPool.Proofs.Credit
import SessionPool.Proofs.Popping
import SessionPool.Proofs.Lookup
import SessionPool.Proofs.Cutting
import SessionPool.Proofs.Grammar
import SessionPool.Proofs.Rendering
import SessionPool.Proofs.Alone
import SessionPool.Proofs.Inspection
import SessionPool.Proofs.Verdict
import SessionPool.Proofs.Weeding
import SessionPool.Proofs.Resizing
import SessionPool.Proofs.Ripeness
import SessionPool.Proofs.Losses
import SessionPool.Proofs.Annals
import SessionPool.Proofs.Backoff
import SessionPool.Proofs.Dialing
import SessionPool.Proofs.Checking
import SessionPool.Proofs.Probing
import SessionPool.Proofs.Serving
import SessionPool.Proofs.Sweeping
import SessionPool.Proofs.Reading
import SessionPool.Proofs.HostNames
import SessionPool.Proofs.Rearranging
import SessionPool.Proofs.Redaction
import SessionPool.Proofs.Formats
import SessionPool.Proofs.Buckets
import SessionPool.Proofs.Reception
import SessionPool.Proofs.Transactions
import SessionPool.Proofs.Comeback
import SessionPool.Proofs.Whereabouts
import SessionPool.Proofs.Routes
import SessionPool.Proofs.Notes
import SessionPool.Proofs.Outside
import SessionPool.Proofs.Late
