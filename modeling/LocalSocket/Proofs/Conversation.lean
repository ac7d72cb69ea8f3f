import LocalSocket.Proofs.Run

/-!
# What a program says to the system

On a channel that stays open, all that an operation depends on, besides what the
threads share, are the answers of the system.  Its conversations are the calls
that it may make, one after the other, each with its answer, along with what it
may end with; whatever else goes on in between is left open.
-/

namespace LocalSocket

structure Exchange where
  call : Call
  answer : call.Answer

/-- What an action that makes no call may give on a channel that is and stays
open. -/
def Action.FindsOpen : (action : Action) → action.Result → Prop
  | .isOpen, found => found = true
  | .closeOnce, _ | .own .., _ | .call _, _ => False
  | _, _ => True

namespace Program

inductive Converses {α : Type} : Program α → List Exchange → α → Prop where
  | done (value : α) : Converses (.done value) [] value
  | act {action : Action} {next : action.Result → Program α}
      {exchanges : List Exchange} {value : α} (result : action.Result)
      (finds : action.FindsOpen result)
      (rest : Converses (next result) exchanges value) :
      Converses (.act action next) exchanges value
  | call {request : Call} {next : request.Answer → Program α}
      {exchanges : List Exchange} {value : α} (answer : request.Answer)
      (rest : Converses (next answer) exchanges value) :
      Converses (.act (.call request) next) (⟨request, answer⟩ :: exchanges)
        value
  | loop {β : Type} {body : Program (Option β)} {next : β → Program α}
      {exchanges : List Exchange} {value : α}
      (rest : Converses (.unroll body next) exchanges value) :
      Converses (.loop body next) exchanges value

variable {α β : Type} {exchanges : List Exchange}

theorem converses_pure {value value' : α} :
    (pure value : Program α).Converses exchanges value' ↔
      exchanges = [] ∧ value' = value := by
  constructor
  · intro h
    cases h
    exact ⟨rfl, rfl⟩
  · rintro ⟨rfl, rfl⟩
    exact .done value'

theorem converses_call_bind {request : Call}
    {f : request.Answer → Program α} {value : α} :
    (Program.call request >>= f).Converses exchanges value ↔
      ∃ answer rest, exchanges = ⟨request, answer⟩ :: rest ∧
        (f answer).Converses rest value := by
  constructor
  · intro h
    cases h with
    | act _ finds => cases finds
    | call answer rest => exact ⟨answer, _, rfl, rest⟩
  · rintro ⟨answer, rest, rfl, h⟩
    exact .call answer h

/-- An action that is not a call goes unheard. -/
theorem converses_perform (action : Action) {result : action.Result}
    (quiet : ∀ request, action ≠ .call request) :
    (Program.perform action).Converses exchanges result ↔
      exchanges = [] ∧ action.FindsOpen result := by
  constructor
  · intro h
    cases h with
    | act _ finds rest =>
        cases rest
        exact ⟨rfl, finds⟩
    | call => exact absurd rfl (quiet _)
  · rintro ⟨rfl, finds⟩
    exact .act result finds (.done result)

theorem unroll_bind {γ : Type} {body : Program (Option γ)}
    {next : γ → Program α} {f : α → Program β} :
    (Program.unroll body next).bind f =
      .unroll body fun value => (next value).bind f := by
  rw [Program.unroll, Program.unroll, bind_assoc]
  congr 1
  funext value
  cases value <;> rfl

theorem Converses.append {program : Program α} {f : α → Program β}
    {first rest : List Exchange} {value : α} {value' : β}
    (h : program.Converses first value)
    (h' : (f value).Converses rest value') :
    (program.bind f).Converses (first ++ rest) value' := by
  induction h with
  | done value => exact h'
  | act result finds _ ih => exact .act result finds (ih h')
  | call answer _ ih => exact .call answer (ih h')
  | loop _ ih => exact .loop (unroll_bind ▸ ih h')

theorem Converses.split {program : Program α} {f : α → Program β} {value' : β}
    (h : (program.bind f).Converses exchanges value') :
    ∃ first value rest, exchanges = first ++ rest ∧
      program.Converses first value ∧ (f value).Converses rest value' := by
  generalize hwhole : program.bind f = whole at h
  -- each step of the whole is one of the program, until that is at its end
  induction h generalizing program with
  | done value =>
      cases program with
      | done value' =>
          have hf : f value' = _ := hwhole
          exact ⟨[], value', [], rfl, .done _, hf ▸ .done _⟩
      | act => cases hwhole
      | loop => cases hwhole
  | act result finds rest ih =>
      cases program with
      | done value' =>
          have hf : f value' = _ := hwhole
          exact ⟨[], value', _, rfl, .done _, hf ▸ .act result finds rest⟩
      | act action next =>
          cases hwhole
          obtain ⟨first, value', last, rfl, hfirst, hlast⟩ := ih rfl
          exact ⟨first, value', last, rfl, .act result finds hfirst, hlast⟩
      | loop => cases hwhole
  | call answer rest ih =>
      cases program with
      | done value' =>
          have hf : f value' = _ := hwhole
          exact ⟨[], value', _, rfl, .done _, hf ▸ .call answer rest⟩
      | act action next =>
          cases hwhole
          obtain ⟨first, value', last, rfl, hfirst, hlast⟩ := ih rfl
          exact ⟨_ :: first, value', last, rfl, .call answer hfirst, hlast⟩
      | loop => cases hwhole
  | loop rest ih =>
      cases program with
      | done value' =>
          have hf : f value' = _ := hwhole
          exact ⟨[], value', _, rfl, .done _, hf ▸ .loop rest⟩
      | act => cases hwhole
      | loop body next =>
          cases hwhole
          obtain ⟨first, value', last, rfl, hfirst, hlast⟩ := ih unroll_bind
          exact ⟨first, value', last, rfl, .loop hfirst, hlast⟩

theorem converses_bind {program : Program α} {f : α → Program β} {value' : β} :
    (program >>= f).Converses exchanges value' ↔
      ∃ first value rest, exchanges = first ++ rest ∧
        program.Converses first value ∧ (f value).Converses rest value' := by
  constructor
  · exact Converses.split
  · rintro ⟨first, value, rest, rfl, h, h'⟩
    exact h.append h'

theorem converses_holding {lock : Lock} {body : Program α} {value : α} :
    (Program.holding lock body).Converses exchanges value ↔
      body.Converses exchanges value := by
  simp only [Program.holding, converses_bind,
    converses_perform (.acquire lock) nofun,
    converses_perform (.release lock) nofun, converses_pure,
    Action.FindsOpen]
  constructor
  · rintro ⟨_, _, _, rfl, ⟨rfl, -⟩, first, value', _, rfl, h, _, _, _, rfl,
      ⟨rfl, -⟩, rfl, rfl⟩
    simpa using h
  · intro h
    exact ⟨[], (), exchanges, rfl, ⟨rfl, trivial⟩, exchanges, value, [],
      by simp, h, [], (), [], rfl, ⟨rfl, trivial⟩, rfl, rfl⟩

section Operating

theorem converses_run_bind {operation : Operating α} {f : α → Operating β}
    {result : Except ChannelError β} :
    (operation >>= f).run.Converses exchanges result ↔
      (∃ first value rest, exchanges = first ++ rest ∧
        operation.run.Converses first (.ok value) ∧
          (f value).run.Converses rest result) ∨
      ∃ error, operation.run.Converses exchanges (.error error) ∧
        result = .error error := by
  show (operation.run >>= ExceptT.bindCont f).Converses exchanges result ↔ _
  rw [converses_bind]
  constructor
  · rintro ⟨first, value | value, rest, rfl, h, h'⟩
    · obtain ⟨rfl, rfl⟩ := converses_pure.mp h'
      exact .inr ⟨value, by simpa using h, rfl⟩
    · exact .inl ⟨first, value, rest, rfl, h, h'⟩
  · rintro (⟨first, value, rest, rfl, h, h'⟩ | ⟨error, h, rfl⟩)
    · exact ⟨first, .ok value, rest, rfl, h, h'⟩
    · exact ⟨exchanges, .error error, [], by simp, h, .done _⟩

theorem converses_run_throw {error : ChannelError}
    {result : Except ChannelError α} :
    (throw error : Operating α).run.Converses exchanges result ↔
      exchanges = [] ∧ result = .error error :=
  converses_pure

theorem converses_ensureOpen {result : Except ChannelError Unit} :
    Channel.ensureOpen.run.Converses exchanges result ↔
      exchanges = [] ∧ result = .ok () := by
  constructor
  · intro h
    cases h with
    | act found finds rest =>
        obtain rfl : found = true := finds
        cases rest
        exact ⟨rfl, rfl⟩
  · rintro ⟨rfl, rfl⟩
    exact .act true rfl (.done _)

/-- Looking whether the channel is open, under a lock, changes nothing. -/
theorem converses_section {lock : Lock} {operation : Operating α}
    {result : Except ChannelError α} :
    (Operating.holding lock (do
      Channel.ensureOpen
      operation)).run.Converses exchanges result ↔
      operation.run.Converses exchanges result := by
  refine converses_holding.trans (converses_run_bind.trans ?_)
  simp only [converses_ensureOpen]
  constructor
  · rintro (⟨_, _, _, rfl, ⟨rfl, -⟩, h⟩ | ⟨_, ⟨-, h⟩, -⟩)
    · exact h
    · cases h
  · exact fun h => .inl ⟨[], (), exchanges, rfl, ⟨rfl, trivial⟩, h⟩

end Operating

end Program

/-! ## Calls that are repeated -/

def Call.exchanges (request : Call) (answers : List request.Answer) :
    List Exchange :=
  answers.map (⟨request, ·⟩)

theorem Call.exists_exchanges_eq {request : Call}
    {answers : List request.Answer}
    {p : List request.Answer → Prop} :
    (∃ others, request.exchanges answers = request.exchanges others ∧
      p others) ↔ p answers := by
  constructor
  · rintro ⟨others, h, hp⟩
    rwa [(List.map_inj_right fun _ _ heq => by cases heq; rfl).mp h]
  · exact fun hp => ⟨answers, rfl, hp⟩

def isInterruption {α : Type} : Except OsError α → Bool
  | .ok _ => false
  | .error error => error.isInterrupted

/-- All answers are interruptions but the last one, which is none. -/
def Settles {α : Type} (answers : List (Except OsError α))
    (answer : Except OsError α) : Prop :=
  ∃ interruptions, answers = interruptions ++ [answer] ∧
    (∀ interruption ∈ interruptions, isInterruption interruption = true) ∧
    isInterruption answer = false

theorem settles_cons {α : Type} {first answer : Except OsError α}
    {answers : List (Except OsError α)} :
    Settles (first :: answers) answer ↔
      if isInterruption first = true then Settles answers answer
      else answers = [] ∧ answer = first := by
  constructor
  · rintro ⟨_ | ⟨interruption, interruptions⟩, hanswers, interrupted, settled⟩
    · cases hanswers
      simp [settled]
    · cases hanswers
      obtain ⟨hfirst, hrest⟩ := List.forall_mem_cons.mp interrupted
      rw [if_pos hfirst]
      exact ⟨interruptions, rfl, hrest, settled⟩
  · intro h
    split at h
    · rename_i hfirst
      obtain ⟨interruptions, rfl, hrest, settled⟩ := h
      exact ⟨first :: interruptions, rfl,
        List.forall_mem_cons.mpr ⟨hfirst, hrest⟩, settled⟩
    · rename_i settled
      obtain ⟨rfl, rfl⟩ := h
      exact ⟨[], rfl, nofun, by simpa using settled⟩

theorem Settles.unique {α : Type} {answer other : Except OsError α}
    {answers : List (Except OsError α)} (settles : Settles answers answer)
    (settles' : Settles answers other) : other = answer := by
  obtain ⟨_, rfl, _⟩ := settles
  obtain ⟨_, h, _⟩ := settles'
  exact (List.append_inj_right' h rfl |> List.singleton_inj.mp).symm

theorem Settles.exchanges_ne_nil {request : Call}
    {answers : List request.Answer} {answer : request.Answer}
    (settles : Settles answers answer) : request.exchanges answers ≠ [] := by
  obtain ⟨interruptions, rfl, _⟩ := settles
  simp [Call.exchanges]

theorem Settles.mem {α : Type} {answer : Except OsError α}
    {answers : List (Except OsError α)} (settles : Settles answers answer) :
    answer ∈ answers := by
  obtain ⟨interruptions, rfl, _⟩ := settles
  simp

namespace Program

variable {exchanges : List Exchange}

/-- One round of a call that is repeated. -/
theorem converses_retry_iff {request : Call} {answer : request.Answer} :
    (Program.retry request).Converses exchanges answer ↔
      ∃ first rest, exchanges = ⟨request, first⟩ :: rest ∧
        if isInterruption first = true then
          (Program.retry request).Converses rest answer
        else rest = [] ∧ answer = first := by
  constructor
  · intro h
    cases h with
    | loop h =>
        cases h with
        | act _ finds => cases finds
        | @call _ _ rest _ first h =>
            refine ⟨first, rest, rfl, ?_⟩
            cases first with
            | ok value => exact converses_pure.mp h
            | error error =>
                cases interrupted : error.isInterrupted <;>
                  simp only [isInterruption, interrupted] at h ⊢
                · exact converses_pure.mp h
                · exact h
  · rintro ⟨first, rest, rfl, h⟩
    refine .loop (.call first ?_)
    cases first with
    | ok value => exact converses_pure.mpr h
    | error error =>
        cases interrupted : error.isInterrupted <;>
          simp only [isInterruption, interrupted] at h ⊢
        · exact converses_pure.mpr h
        · exact h

theorem converses_retry {request : Call} {answer : request.Answer} :
    (Program.retry request).Converses exchanges answer ↔
      ∃ answers, exchanges = request.exchanges answers ∧
        Settles answers answer := by
  constructor
  · intro h
    induction exchanges with
    | nil =>
        obtain ⟨_, _, hnil, _⟩ := converses_retry_iff.mp h
        cases hnil
    | cons exchange rest ih =>
        obtain ⟨first, _, hcons, h⟩ := converses_retry_iff.mp h
        cases hcons
        by_cases interrupted : isInterruption first = true
        · rw [if_pos interrupted] at h
          obtain ⟨answers, rfl, settles⟩ := ih h
          refine ⟨first :: answers, rfl, settles_cons.mpr ?_⟩
          rwa [if_pos interrupted]
        · rw [if_neg interrupted] at h
          obtain ⟨rfl, rfl⟩ := h
          refine ⟨[answer], rfl, settles_cons.mpr ?_⟩
          rw [if_neg interrupted]
          exact ⟨rfl, rfl⟩
  · rintro ⟨answers, rfl, settles⟩
    induction answers with
    | nil =>
        obtain ⟨interruptions, hnil, _⟩ := settles
        simp at hnil
    | cons first rest ih =>
        have hfirst := settles_cons.mp settles
        refine converses_retry_iff.mpr ⟨first, _, rfl, ?_⟩
        by_cases interrupted : isInterruption first = true
        · rw [if_pos interrupted] at hfirst ⊢
          exact ih hfirst
        · rw [if_neg interrupted] at hfirst ⊢
          obtain ⟨rfl, rfl⟩ := hfirst
          exact ⟨rfl, rfl⟩

end Program

end LocalSocket
