import LocalSocket.Proofs.Run

/-!
# Playing out a run

A run can be played out move by move: a thread begins an operation, takes the
next step of it, or is given the answer to its call.
-/

namespace LocalSocket

inductive Move where
  | begin (thread : Thread) (operation : Channel.Operation)
  | step (thread : Thread)
  | answer (thread : Thread) (answer : (call : Call) → call.Answer)

def Move.steps (thread : Thread) (count : Nat) : List Move :=
  List.replicate count (.step thread)

namespace Config

def advance (c : Config) (thread : Thread) (operation : Channel.Operation) :
    Program Channel.Reply → Option (Trace × Config)
  | .done reply =>
      some ([.ended thread operation reply],
        { c.set thread .idle with
          guards := c.guards + (operation.givesGuard reply).toNat })
  | .loop body next =>
      some ([], c.set thread (.running operation (.unroll body next)))
  | .act (.call call) next =>
      some ([.called thread call], c.set thread (.calling operation call next))
  | .act .pause next =>
      some ([.acted thread .pause], c.set thread (.running operation (next ())))
  | .act action next =>
      match c.channel.answer thread action with
      | .answered channel result =>
          some ([.acted thread action],
            { c.set thread (.running operation (next result)) with
              channel := channel })
      | _ => none

/-- What is seen of a move, and where it leads, if it can be made. -/
def move (fd : Fd) (c : Config) : Move → Option (Trace × Config)
  | .begin thread operation =>
      match c.activity thread with
      | .idle =>
          if c.isDropped = false ∧
            (operation.takesGuard = true → 0 < c.guards) then
            some ([.began thread operation],
              { c.set thread (.running operation (operation.program fd)) with
                guards := c.guards - operation.takesGuard.toNat })
          else none
      | _ => none
  | .step thread =>
      match c.activity thread with
      | .running operation rest => c.advance thread operation rest
      | _ => none
  | .answer thread answer =>
      match c.activity thread with
      | .calling operation call next =>
          some ([.answered thread call (answer call)],
            c.set thread (.running operation (next (answer call))))
      | _ => none

def play (fd : Fd) (c : Config) : List Move → Option (Trace × Config)
  | [] => some ([], c)
  | move :: rest => do
      let (events, c) ← c.move fd move
      let (trace, c) ← c.play fd rest
      pure (events ++ trace, c)

variable {fd : Fd} {c c' : Config} {events trace : Trace}

theorem step_of_advance {thread : Thread} {operation : Channel.Operation}
    {rest : Program Channel.Reply}
    (running : c.activity thread = .running operation rest)
    (h : c.advance thread operation rest = some (events, c')) :
    Step fd c events c' := by
  unfold advance at h
  split at h
  · cases h
    exact .finish running
  · cases h
    exact .unroll running
  · cases h
    exact .call running
  · cases h
    exact .pause running
  · split at h
    · rename_i answered
      cases h
      exact .act running answered
    · cases h

theorem step_of_move {m : Move} (h : c.move fd m = some (events, c')) :
    Step fd c events c' := by
  cases m with
  | begin thread operation =>
      simp only [Config.move] at h
      split at h
      · rename_i idle
        split at h
        · rename_i hbegin
          cases h
          exact .begin idle hbegin.1 hbegin.2
        · cases h
      · cases h
  | step thread =>
      simp only [Config.move] at h
      split at h
      · rename_i running
        exact step_of_advance running h
      · cases h
  | answer thread answer =>
      simp only [Config.move] at h
      split at h
      · rename_i calling
        cases h
        exact .answer _ calling
      · cases h

theorem steps_of_play {moves : List Move}
    (h : c.play fd moves = some (trace, c')) :
    Steps fd c trace c' := by
  induction moves generalizing c trace with
  | nil =>
      cases h
      exact .refl
  | cons move rest ih =>
      simp only [play, Option.bind_eq_bind, Option.bind_eq_some_iff] at h
      obtain ⟨⟨events, c₁⟩, hmove, ⟨rest, c₂⟩, hrest, heq⟩ := h
      cases heq
      exact (Steps.single (step_of_move hmove)).trans (ih hrest)

theorem steps_get {moves : List Move} (h : (c.play fd moves).isSome = true) :
    Steps fd c ((c.play fd moves).get h).1 ((c.play fd moves).get h).2 :=
  steps_of_play (Option.some_get h).symm

theorem step_get {m : Move} (h : (c.move fd m).isSome = true) :
    Step fd c ((c.move fd m).get h).1 ((c.move fd m).get h).2 :=
  step_of_move (Option.some_get h).symm

end Config

end LocalSocket
