import LocalSocket.Proofs.Protocol

/-!
# What programs maintain

Often all that matters of a part of a program is that it leaves the standing of
its thread within bounds, whatever it is answered and however it ends.  That
much carries over from the parts of a program to the whole.
-/

namespace LocalSocket.Protocol

variable {σ : Type} {P : Protocol σ} {thread : Thread} {I : σ → Prop}
  {α β : Type}

/-- With a standing in `I`, the program keeps to the protocol, and it ends with
one. -/
def Maintains (P : Protocol σ) (thread : Thread) (I : σ → Prop)
    (program : Program α) : Prop :=
  ∀ ⦃s : σ⦄, I s → P.Meets thread program (fun _ => I) s

theorem Maintains.meets {program : Program α}
    (h : P.Maintains thread I program) {s : σ} {post : α → σ → Prop} (hs : I s)
    (hpost : ∀ value s', I s' → post value s') :
    P.Meets thread program post s :=
  (h hs).mono hpost

theorem maintains_pure (value : α) : P.Maintains thread I (pure value) :=
  fun _ hs => hs

theorem maintains_perform {action : Action}
    (h : ∀ s, I s → P.act thread s action fun _ => I) :
    P.Maintains thread I (Program.perform action) := h

theorem maintains_bind {program : Program α} {f : α → Program β}
    (h : P.Maintains thread I program)
    (hf : ∀ value, P.Maintains thread I (f value)) :
    P.Maintains thread I (program >>= f) := by
  intro s hs
  rw [meets_bind_eq]
  exact h.meets hs fun value s' hs' => hf value hs'

theorem maintains_loop {body : Program (Option β)} {next : β → Program α}
    (hguard : body.next? ≠ none) (hbody : P.Maintains thread I body)
    (hnext : ∀ value, P.Maintains thread I (next value)) :
    P.Maintains thread I (.loop body next) := by
  intro s hs
  refine meets_loop I hguard hs fun s' hs' => ?_
  refine hbody.meets hs' fun value s'' hs'' => ?_
  cases value with
  | none => exact hs''
  | some value => exact hnext value hs''

theorem maintains_retry {call : Call}
    (h : ∀ s, I s → P.act thread s (.call call) fun _ => I) :
    P.Maintains thread I (Program.retry call) := by
  have hcall : P.Maintains thread I (Program.call call) := maintains_perform h
  refine maintains_loop (by simp [Program.next?]) ?_ maintains_pure
  refine maintains_bind hcall fun answer => ?_
  cases answer with
  | ok value => exact maintains_pure _
  | error error => exact maintains_pure _

theorem maintains_holding {lock : Lock} {body : Program α}
    (acquire : ∀ s, I s → P.act thread s (.acquire lock) fun _ => I)
    (release : ∀ s, I s → P.act thread s (.release lock) fun _ => I)
    (h : P.Maintains thread I body) :
    P.Maintains thread I (Program.holding lock body) :=
  maintains_bind (maintains_perform acquire) fun _ => maintains_bind h
    fun _ => maintains_bind (maintains_perform release) fun _ =>
      maintains_pure _

section Operating

theorem maintains_run_bind {operation : Operating α} {f : α → Operating β}
    (h : P.Maintains thread I operation.run)
    (hf : ∀ value, P.Maintains thread I (f value).run) :
    P.Maintains thread I (operation >>= f).run := by
  intro s hs
  rw [meets_run_bind]
  refine h.meets hs fun result s' hs' => ?_
  cases result with
  | ok value => exact hf value hs'
  | error error => exact hs'

theorem maintains_run_ite {condition : Prop} [Decidable condition]
    {operation other : Operating α} (h : P.Maintains thread I operation.run)
    (hother : P.Maintains thread I other.run) :
    P.Maintains thread I
      (ExceptT.run (if condition then operation else other)) := by
  split
  · exact h
  · exact hother

theorem maintains_lift {program : Program α}
    (h : P.Maintains thread I program) :
    P.Maintains thread I (ExceptT.lift program : Operating α).run := by
  intro s hs
  rw [meets_run_lift]
  exact h hs

theorem maintains_onSocket {program : Program (Except OsError α)}
    (h : P.Maintains thread I program) :
    P.Maintains thread I (Operating.onSocket program).run := by
  intro s hs
  rw [meets_run_onSocket]
  refine h.meets hs fun result s' hs' => ?_
  cases result <;> exact hs'

theorem maintains_quietly {operation : Operating Unit}
    (h : P.Maintains thread I operation.run) :
    P.Maintains thread I (Operating.quietly operation).run := by
  intro s hs
  rw [meets_run_quietly]
  exact h hs

end Operating

end LocalSocket.Protocol
