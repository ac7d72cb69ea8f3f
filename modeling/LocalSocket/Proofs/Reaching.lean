import LocalSocket.Proofs.Journal

/-!
# Where a program can get to

A program goes on with whatever its actions give back, and its loops may come
round any number of times.  What holds of all points that the program of an
operation can get to holds at every moment at which a thread is inside the
operation.

A program that insists on a request takes an interruption for no answer: if the
channel is open, it comes back to the very call that has been interrupted, and
has done nothing but look at the channel.
-/

namespace LocalSocket

/-- The call has been interrupted. -/
def Call.interrupted (request : Call) : request.Answer :=
  .error (.code Errno.interrupted)

namespace Program

variable {α β : Type} {request : Call}

/-- One action further, or once more into a loop. -/
inductive Next : Program α → Program α → Prop where
  | act {action : Action} {next : action.Result → Program α}
      (result : action.Result) : Next (.act action next) (next result)
  | loop {γ : Type} {body : Program (Option γ)} {next : γ → Program α} :
      Next (.loop body next) (.unroll body next)

def Reaches : Program α → Program α → Prop :=
  Relation.ReflTransGen Next

theorem Next.of_bind {program : Program α} {f : α → Program β}
    {program' : Program β} (h : Next (program.bind f) program') :
    (∃ rest, Next program rest ∧ program' = rest.bind f) ∨
      ∃ value, program = .done value ∧ Next (f value) program' := by
  cases program with
  | done value => exact .inr ⟨value, rfl, h⟩
  | act action next =>
      cases h with
      | act result => exact .inl ⟨next result, .act result, rfl⟩
  | loop body next =>
      cases h
      exact .inl ⟨.unroll body next, .loop, unroll_bind.symm⟩

/-- What a sequence reaches belongs to its first part, or its first part has
come to an end. -/
theorem Reaches.of_bind {program : Program α} {f : α → Program β}
    {program' : Program β} (h : (program.bind f).Reaches program') :
    (∃ rest, program.Reaches rest ∧ program' = rest.bind f) ∨
      ∃ value, program.Reaches (.done value) ∧ (f value).Reaches program' := by
  induction h with
  | refl => exact .inl ⟨program, .refl, rfl⟩
  | tail _ hnext ih =>
      obtain ⟨rest, hrest, rfl⟩ | ⟨value, hvalue, hreaches⟩ := ih
      · obtain ⟨rest', hnext', rfl⟩ | ⟨value, rfl, hnext'⟩ := hnext.of_bind
        · exact .inl ⟨rest', hrest.tail hnext', rfl⟩
        · exact .inr ⟨value, hrest, .single hnext'⟩
      · exact .inr ⟨value, hvalue, hreaches.tail hnext⟩

/-- What the first point has and each point hands on to the next, all have. -/
theorem Reaches.invariant {I : Program α → Prop} {program program' : Program α}
    (h : program.Reaches program') (start : I program)
    (step : ∀ {p p' : Program α}, I p → Next p p' → I p') : I program' := by
  induction h with
  | refl => exact start
  | tail _ hnext ih => exact step ih hnext

theorem IsAloof.next {program program' : Program α} (aloof : program.IsAloof)
    (h : Next program program') : program'.IsAloof := by
  cases h with
  | act result => exact aloof.2 result
  | loop => exact Protocol.Meets.unroll aloof

theorem IsAloof.isBlocking_eq_false {program : Program α} {call : Call}
    {next : call.Answer → Program α} (aloof : program.IsAloof)
    (h : program.Reaches (.act (.call call) next)) :
    call.isBlocking = false := by
  have reached : (Program.act (.call call) next).IsAloof :=
    h.invariant aloof .next
  simpa using reached.1

/-! ## Coming back to a call -/

/-- On an open channel, the program comes to the other one by no more than
looking whether the channel is open. -/
inductive Resumes : Program α → Program α → Prop where
  | refl (program : Program α) : Resumes program program
  | look {next : Bool → Program α} {program : Program α}
      (rest : Resumes (next true) program) :
      Resumes (.act .isOpen next) program
  | loop {γ : Type} {body : Program (Option γ)} {next : γ → Program α}
      {program : Program α} (rest : Resumes (.unroll body next) program) :
      Resumes (.loop body next) program

theorem Resumes.bind {program program' : Program α} (f : α → Program β)
    (h : program.Resumes program') :
    (program.bind f).Resumes (program'.bind f) := by
  induction h with
  | refl program => exact .refl _
  | look _ ih => exact .look ih
  | loop _ ih => exact .loop (unroll_bind ▸ ih)

/-- The request is made again whenever it has been interrupted. -/
def Insists (request : Call) (program : Program α) : Prop :=
  ∀ ⦃next : request.Answer → Program α⦄,
    program.Reaches (.act (.call request) next) →
      (next request.interrupted).Resumes (.act (.call request) next)

namespace Insists

theorem of_isAloof {program : Program α} (aloof : program.IsAloof)
    (blocking : request.isBlocking = true) : program.Insists request := by
  intro next hcall
  rw [aloof.isBlocking_eq_false hcall] at blocking
  cases blocking

/-- A call in a sequence is one of the first part or of what comes after. -/
theorem call_of_bind {program : Program α} {f : α → Program β} {call : Call}
    {next : call.Answer → Program β}
    (h : (program.bind f).Reaches (.act (.call call) next)) :
    (∃ rest, program.Reaches (.act (.call call) rest) ∧
      next = fun answer => (rest answer).bind f) ∨
    ∃ value, (f value).Reaches (.act (.call call) next) := by
  obtain ⟨rest, hrest, heq⟩ | ⟨value, -, hvalue⟩ := h.of_bind
  · cases rest with
    | done value =>
        have heq : Program.act (.call call) next = f value := heq
        exact .inr ⟨value, heq ▸ .refl⟩
    | act action rest =>
        cases heq
        exact .inl ⟨rest, hrest, rfl⟩
    | loop => cases heq
  · exact .inr ⟨value, hvalue⟩

theorem bind {program : Program α} {f : α → Program β}
    (h : program.Insists request) (hf : ∀ value, (f value).Insists request) :
    (program.bind f).Insists request := by
  intro next hcall
  obtain ⟨rest, hrest, rfl⟩ | ⟨value, hvalue⟩ := call_of_bind hcall
  · exact (h hrest).bind f
  · exact hf value hvalue

section Operating

variable (blocking : request.isBlocking = true)

include blocking in
theorem holding {lock : Lock} {body : Program α} (h : body.Insists request) :
    (Program.holding lock body).Insists request :=
  bind (of_isAloof (.perform rfl) blocking) fun _ =>
    h.bind fun _ => of_isAloof (.bind (.perform rfl) fun _ => .pure _) blocking

include blocking in
theorem run_bind {operation : Operating α} {f : α → Operating β}
    (h : operation.run.Insists request)
    (hf : ∀ value, (f value).run.Insists request) :
    (operation >>= f).run.Insists request := by
  refine h.bind fun result => ?_
  cases result with
  | ok value => exact hf value
  | error error => exact of_isAloof (.pure _) blocking

include blocking in
theorem run_lift {program : Program α} (h : program.Insists request) :
    (ExceptT.lift program : Operating α).run.Insists request :=
  h.bind fun _ => of_isAloof (.pure _) blocking

end Operating

end Insists

end Program

/-! ## Threads inside an operation -/

/-- The program of the operation gets to where the thread is. -/
def Activity.IsInside (fd : Fd) (operation : Channel.Operation) :
    Activity → Prop
  | idle => False
  | running operation' rest =>
      operation' = operation ∧ (operation.program fd).Reaches rest
  | calling operation' call next =>
      operation' = operation ∧
        (operation.program fd).Reaches (.act (.call call) next)

section Inside

variable {fd : Fd} {thread : Thread} {operation : Channel.Operation}
  {during events : Trace} {c c' : Config}

theorem Step.isInside_of_began
    (step : Step fd c [.began thread operation] c') :
    (c'.activity thread).IsInside fd operation := by
  rw [step.running_of_began.1]
  exact ⟨rfl, .refl⟩

theorem Step.isInside (step : Step fd c events c')
    (within : events.IsWithin thread)
    (inside : (c.activity thread).IsInside fd operation) :
    (c'.activity thread).IsInside fd operation := by
  obtain ⟨hactivity, -⟩ | advance := step.advance within
  · rwa [hactivity]
  · cases advance with
    | @act operation' action next channel result running answered =>
        rw [running] at inside
        simpa using ⟨inside.1,
          inside.2.tail (@Program.Next.act _ action next result)⟩
    | @pause operation' next running =>
        rw [running] at inside
        simpa using ⟨inside.1,
          inside.2.tail (@Program.Next.act _ .pause next ())⟩
    | unroll running =>
        rw [running] at inside
        simpa using ⟨inside.1, inside.2.tail .loop⟩
    | call running =>
        rw [running] at inside
        simpa [Activity.IsInside] using inside
    | @answer operation' call next answer calling =>
        rw [calling] at inside
        simpa using ⟨inside.1,
          inside.2.tail (@Program.Next.act _ (.call call) next answer)⟩

theorem Steps.isInside (steps : Steps fd c during c')
    (within : during.IsWithin thread)
    (inside : (c.activity thread).IsInside fd operation) :
    (c'.activity thread).IsInside fd operation := by
  induction steps with
  | refl => exact inside
  | tail _ step ih =>
      exact step.isInside (within.of_subset (List.subset_append_right ..))
        (ih (within.of_subset (List.subset_append_left ..)))

end Inside

end LocalSocket
