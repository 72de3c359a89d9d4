import RuleCatalog.Catalog.Sync
import RuleCatalog.Cluster.ActiveProgram

/-! # Workers

A worker takes jobs from the queue, one after another, until the queue is closed. A sync that
fails is queued again after a delay; the first one that succeeds ends the row of failures. -/
namespace RuleCatalog

inductive Worker where
  /-- Waits for a job. -/
  | idle
  | busy (sync : ActiveProgram (Except SyncError SyncStats))
  | finished

namespace Worker

/-- Gives a job back to the queue. Its delay after a failure has nothing added to it. -/
def report (w : World) : Except SyncError SyncStats → World
  | .ok _ => { w with queue := (w.queue.forget .sync).done .sync }
  | .error _ => { w with queue := (w.queue.addRateLimited w.now .sync 0).2.done .sync }

/-- Lets a worker take a job, or go on with the one that it has. -/
def step (w : World) : Worker → Worker × World
  | idle =>
    let (handout, queue) := w.queue.take
    let w := { w with queue := queue }
    match handout with
    | .key .sync => (busy (.ofProgram (Catalog.sync w.config)), w)
    | .nothing => (idle, w)
    | .closed => (finished, w)
  | busy sync =>
    let (sync, w) := sync.poll w
    match sync.result? with
    | some result => (idle, report w result)
    | none => (busy sync, w)
  | finished => (finished, w)

def isFinished : Worker → Bool
  | finished => true
  | _ => false

/-- Whether a worker can go on. -/
def canGoOn (w : World) : Worker → Bool
  | idle => w.queue.isClosed || !w.queue.queued.isEmpty
  | busy sync => sync.canGoOn w
  | finished => false

/-- When a worker can go on by the clock alone. -/
def wake? : Worker → Option Nat
  | busy sync => sync.wake?
  | _ => none

end Worker

end RuleCatalog
