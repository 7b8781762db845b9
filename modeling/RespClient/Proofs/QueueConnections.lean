import RespClient.Proofs.NumberedQueues
import RespClient.Proofs.QueueConservation
import RespClient.Proofs.WorkerConnections

/-!
# Connections of workers

A worker that goes on owns one connection. It gives the connection up only when it is closed, for a
sibling of it, and closes the last one when it ends. So every connection that was made for a worker
is closed or owned by a worker that goes on (`connections_kept`).
-/

namespace RespClient.Queue

variable {C Net : Type} [Connection C Net] {excepted : List Nat} {rest : List (Numbered C)}

/-- The connections of the workers that go on. -/
def connections (queue : Queue (Numbered C)) : List (Numbered C) :=
  queue.workers.flatMap Worker.live

/-! ## Steps and runs -/

/-- What a worker does with its connection leaves those of the others where they are. -/
theorem act_kept {index : Nat} {running : Running (Numbered C)} {worker : Worker (Numbered C)}
    {queue : Queue (Numbered C)} {world : World (Register C Net)}
    {action : World (Register C Net) → Worker (Numbered C) × World (Register C Net)}
    (there : running.workers[index]? = some worker) (alive : worker.isAlive = true)
    (acts : ∀ {rest}, Kept world.net.states excepted (worker.connection :: rest) →
      let (after, world') := action { world with log := queue.workerLog }
      Kept world'.net.states excepted (after.live ++ rest))
    (kept : Kept world.net.states excepted (running.workers.flatMap Worker.live)) :
    let (queue', world') := queue.act index running action world
    Kept world'.net.states excepted queue'.connections := by
  let after := (action { world with log := queue.workerLog }).1
  have before := flatMap_perm_eraseIdx there Worker.live
  rw [Worker.live, if_pos alive] at before
  have acted := acts (kept.perm before)
  exact acted.perm (flatMap_set_perm_eraseIdx there after Worker.live).symm

theorem move_kept (closes : Connection.Closes C) {index : Nat} {queue queue' : Queue (Numbered C)}
    {world world' : World (Register C Net)}
    (moves : queue.move index world = some (queue', world'))
    (calm : ∀ worker ∈ queue'.workers, worker.crash? = none)
    (kept : Kept world.net.states excepted queue.connections) :
    Kept world'.net.states excepted queue'.connections := by
  obtain ⟨running, worker, running?, there, acts⟩ := move_acts moves
  have here : queue.connections = running.workers.flatMap Worker.live := by
    rw [connections, workers_of_running running?]
  rw [here] at kept
  have inside := (List.getElem?_eq_some_iff.1 there).1
  rcases acts with ⟨batch, last, ready, acts⟩ | ⟨finding, others, finds, acts⟩
  · have alive : worker.isAlive = true := by rw [Worker.isAlive, ready]
    cases acts
    exact act_kept there alive (fun kept => Worker.perform_kept closes ready kept
      (calm _ (List.mem_set inside _))) kept
  · have alive : worker.isAlive = true := by
      rcases Running.gathers_of_find? finds with waits | ⟨batch, collects⟩
      · rw [Worker.isAlive, waits]
      · rw [Worker.isAlive, collects]
    have there' : { running with channel := others }.workers[index]? = some worker := there
    cases acts
    exact act_kept there' alive (fun kept => Worker.observe_kept closes finding alive kept
      (calm _ (List.mem_set inside _))) kept

namespace History

variable {history : History (Numbered C) (Register C Net)}

theorem kept_of_workers {queue queue' : Queue (Numbered C)} {states : List C}
    (same : queue'.workers = queue.workers) (kept : Kept states excepted queue.connections) :
    Kept states excepted queue'.connections := by
  rw [connections, same]
  exact kept

/-- Every event without a crash leaves every connection that is not closed with a worker that goes
on. -/
theorem connections_kept_step (closes : Connection.Closes C) {event : Event Net}
    (calm : (history.step event.numbered).Calm)
    (kept : Kept history.world.net.states excepted history.queue.connections) :
    Kept (history.step event.numbered).world.net.states excepted
      (history.step event.numbered).queue.connections := by
  cases event with
  | submit commands => exact kept
  | proceed call =>
    rcases history.proceed_cases call with
      stays | ⟨submission, progress, queue, sent, found, proceeds, out⟩
    · rw [show history.step (Event.numbered (.proceed call)) = history from stays]
      exact kept
    · rw [show history.step (Event.numbered (.proceed call)) = _ from out]
      refine kept_of_workers ((workers_sync _).trans ?_) kept
      exact workers_proceed proceeds
  | close =>
    rcases history with ⟨queue, world, _ | _ | _, submissions⟩ <;> exact kept
  | release =>
    rcases history with ⟨queue, world, _ | _ | _, submissions⟩
    · exact kept
    · exact kept_of_workers (workers_sync _) kept
    · exact kept
  | work index =>
    rcases moves : history.queue.move index history.world with _ | ⟨queue, world⟩
    · simp only [Event.numbered, step, moves]
      exact kept
    · simp only [Event.numbered, step, moves] at calm ⊢
      exact move_kept closes moves calm kept
  | elsewhere change => exact kept

theorem connections_kept_run (closes : Connection.Closes C) {events : List (Event Net)}
    (calm : (history.run (events.map Event.numbered)).Calm)
    (kept : Kept history.world.net.states excepted history.queue.connections) :
    Kept (history.run (events.map Event.numbered)).world.net.states excepted
      (history.run (events.map Event.numbered)).queue.connections := by
  induction events generalizing history with
  | nil => exact kept
  | cons event later more => exact more calm (connections_kept_step closes (calm_of_run calm) kept)

end History

/-! ## Starting -/

theorem startWorkers_kept {logger : Logger} {batchSize : Nat} {seed : Numbered C} {count : Nat} :
    ∀ {number : Nat} {workers workers' : List (Worker (Numbered C))}
      {workerLog workerLog' : Array LogEntry} {world world' : World (Register C Net)},
      startWorkers logger batchSize seed number count workers workerLog world =
        (none, workers', workerLog', world') →
      Kept world.net.states excepted (workers.flatMap Worker.live) →
      Kept world'.net.states excepted (workers'.flatMap Worker.live) := by
  induction count with
  | zero =>
    intro number workers workers' workerLog workerLog' world world' starts kept
    cases starts
    exact kept
  | succ count more =>
    intro number workers workers' workerLog workerLog' world world' starts kept
    rcases copies : Connection.sibling seed.connection world.plain with ⟨error | fresh, next⟩
    · simp only [startWorkers, Numbered.sibling_of_error copies] at starts
      cases starts
    · simp only [startWorkers, Numbered.sibling_of_ok copies] at starts
      refine more starts ?_
      rw [List.flatMap_append]
      exact (kept.enter fresh).perm (List.perm_append_singleton _ _).symm

/-- A queue that was just started has all connections but its seed with its workers. -/
theorem connections_kept_start {queue : Queue C} {opened : Queue (Numbered C)}
    {world : World Net} {world' : World (Register C Net)}
    (starts : queue.numbered.start (world.registering queue.seed.toList) =
      (.ok (), opened, world')) :
    Kept world'.net.states [0] opened.connections := by
  obtain ⟨-, -, -, logger, seed, workers, workerLog, world'', -, seed?, all, rfl, rfl⟩ :=
    start_ok_iff.1 starts
  have before : Kept queue.seed.toList [0] [] := {
    current := nofun
    distinct := List.nodup_nil
    accounted := by
      intro number connection found opened counts
      have inside := (List.getElem?_eq_some_iff.1 found).1
      have few : queue.seed.toList.length ≤ 1 := by
        cases queue.seed with
        | none => exact Nat.zero_le 1
        | some seed => exact Nat.le_refl 1
      have first : number = 0 := by omega
      exact absurd (List.mem_singleton.2 first) counts }
  have kept := startWorkers_kept all before
  exact kept

end RespClient.Queue
