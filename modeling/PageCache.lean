import PageCache.Main
import PageCache.Proofs.Pool.Deletion
import PageCache.Proofs.Pool.Disposal
import PageCache.Proofs.Pool.Dropping
import PageCache.Proofs.Pool.Durability
import PageCache.Proofs.Pool.Exhaustion
import PageCache.Proofs.Pool.Failure
import PageCache.Proofs.Pool.FlushedOut
import PageCache.Proofs.Pool.Indifference
import PageCache.Proofs.Pool.Ledger
import PageCache.Proofs.Pool.Occupancy
import PageCache.Proofs.Pool.PinLimit
import PageCache.Proofs.Pool.Rounds
import PageCache.Proofs.Pool.Selection
import PageCache.Proofs.Pool.Statistics
import PageCache.Proofs.Pool.Tenure
import PageCache.Proofs.Pool.Transparency
import PageCache.Proofs.Pool.WritingBack
import PageCache.Proofs.Session.Course
import PageCache.Proofs.Session.Observation
import PageCache.Proofs.Session.Safety
import PageCache.Proofs.Shell.Bookkeeping
import PageCache.Proofs.Shell.Grammar
import PageCache.Proofs.Storage.Agreement
import PageCache.Proofs.Word.Run
import PageCache.Proofs.Word.Sweep
import PageCache.Proofs.Word.Transparency
import PageCache.Runs
import PageCache.Session.Step
