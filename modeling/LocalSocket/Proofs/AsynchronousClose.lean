import LocalSocket.Proofs.Overtaken.Operations
import LocalSocket.Proofs.Release

/-!
# Closing a channel while threads are inside calls

Whatever the call of a thread returns after the channel has been closed, and
whatever other threads do, the operation of the thread comes to an end: it is
told of the close, unless the call has moved bytes or raised events.
-/

namespace LocalSocket

open Function (update update_self)

namespace Trace

def gain : Trace → Option Gain :=
  List.findSome? fun
    | .answered _ call answer => call.gain? answer
    | _ => none

/-- How many actions have been taken, and calls returned without having been
interrupted. -/
def effort : Trace → Nat :=
  List.countP fun
    | .acted .. => true
    | .answered _ call answer => !call.isInterrupted answer
    | _ => false

theorem gain_append (trace events : Trace) :
    gain (trace ++ events) = trace.gain.or (gain events) :=
  List.findSome?_append

theorem effort_append (trace events : Trace) :
    effort (trace ++ events) = trace.effort + effort events :=
  List.countP_append

theorem HasShutDown.append {trace : Trace} (h : trace.HasShutDown)
    (events : Trace) :
    HasShutDown (trace ++ events) := by
  obtain ⟨thread, rest, hfirst, hmem⟩ := h
  refine ⟨thread, rest ++ events, ?_, List.mem_append_left _ hmem⟩
  rw [firstClose?_append, hfirst]

end Trace

/-! ## What threads may rely on -/

theorem Step.closed {fd : Fd} {c c' : Config} {events : Trace}
    (h : Step fd c events c') (reach : Protocol.Reachable fd c)
    (closed : c.channel.isOpen = false) :
    c'.channel.isOpen = false := by
  obtain ⟨trace, run⟩ := reach
  obtain ⟨S, coherent, _⟩ := run.coherent
  obtain ⟨S', coherent', _⟩ := (run.step h).coherent
  have hopened := coherent.closedBy.opened
  have hopened' := coherent'.closedBy.opened
  rw [Trace.firstClose?_append] at hopened'
  cases hfirst : trace.firstClose? with
  | none => simp [hfirst, closed] at hopened
  | some first => simpa [hfirst] using hopened'

namespace Course

def spend : Course → Course
  | undisturbed => undisturbed
  | overtaken gain credit => overtaken gain (credit - 1)

def answered (s : Course) (closed : Bool) (call : Call) (answer : call.Answer) :
    Course :=
  if call.isBlocking then if closed then after call answer else undisturbed
  else if call.isInterrupted answer then s else s.spend

variable {s : Course} {thread : Thread}

theorem Takes.act {action : Action} {k : action.Result → Course → Prop}
    {channel channel' : Channel} {result : action.Result}
    (takes : s.Takes action k)
    (hanswer : channel.answer thread action = .answered channel' result)
    (closed : s ≠ undisturbed → channel.isOpen = false) : k result s.spend := by
  cases s with
  | undisturbed =>
      cases action with
      | own => cases takes
      | call call => cases hanswer
      | _ => exact takes result
  | overtaken gain credit =>
      cases action with
      | own => cases takes
      | acquire lock => exact takes.2.2
      | isOpen =>
          cases hanswer
          rw [closed nofun]
          exact takes.2
      | call call => cases hanswer
      | _ => exact takes.2 result

theorem Takes.pause {k : Unit → Course → Prop} (takes : s.Takes .pause k) :
    k () s.spend := by
  cases s with
  | undisturbed => exact takes ()
  | overtaken gain credit => exact takes.2 ()

theorem Takes.answer {call : Call} {k : call.Answer → Course → Prop}
    (answer : call.Answer) (takes : s.Takes (.call call) k) {closed : Bool}
    (hclosed : s ≠ undisturbed → closed = true) :
    k answer (s.answered closed call answer) := by
  cases s with
  | undisturbed =>
      obtain ⟨hsame, hafter⟩ := takes answer
      unfold answered
      split
      · rename_i blocking
        cases closed with
        | true => exact hafter blocking
        | false => exact hsame
      · split <;> exact hsame
  | overtaken gain credit =>
      rw [hclosed nofun]
      simp only [Takes] at takes
      unfold answered
      split
      · rename_i blocking
        rw [if_pos blocking] at takes
        exact takes.2.2.2 answer
      · rename_i blocking
        rw [if_neg blocking] at takes
        have hnext := takes.2 answer
        split
        · rename_i interrupted
          rwa [if_pos interrupted] at hnext
        · rename_i interrupted
          rwa [if_neg interrupted] at hnext

theorem Takes.credit {gain : Option Gain} {credit : Nat} {action : Action}
    {k : action.Result → Course → Prop}
    (takes : (overtaken gain credit).Takes action k) :
    0 < credit := by
  cases action with
  | own => cases takes
  | call call =>
      simp only [Takes] at takes
      split at takes
      · rw [takes.2.2.1]
        decide
      · exact takes.1
  | _ => exact takes.1

theorem spend_eq_undisturbed : s.spend = undisturbed ↔ s = undisturbed := by
  cases s <;> simp [spend]

theorem answered_ne {closed : Bool} {call : Call} {answer : call.Answer}
    (h : s.answered closed call answer ≠ undisturbed) :
    s ≠ undisturbed ∨ closed = true := by
  cases closed with
  | true => exact .inr rfl
  | false =>
      refine .inl fun hs => h ?_
      subst hs
      simp [answered, spend]

end Course

/-- Whoever has been overtaken finds the channel closed. -/
def Justified (c : Config) (S : Thread → Course) : Prop :=
  ∀ t, S t ≠ .undisturbed → c.channel.isOpen = false

section Steps

variable {fd : Fd} {c c' : Config} {events : Trace} {S : Thread → Course}
  {thread : Thread} {s' : Course}

theorem Justified.step (justified : Justified c S)
    (reach : Protocol.Reachable fd c) (hstep : Step fd c events c')
    (hs : s' ≠ .undisturbed → S thread ≠ .undisturbed ∨
      c.channel.isOpen = false) :
    Justified c' (update S thread s') := by
  intro t ht
  refine hstep.closed reach ?_
  by_cases hne : t = thread
  · subst hne
    obtain hdisturbed | hclosed := hs (by simpa using ht)
    · exact justified t hdisturbed
    · exact hclosed
  · exact justified t (by simpa [hne] using ht)

theorem Justified.answered_closed (justified : Justified c S)
    (h : S thread ≠ .undisturbed) : (!c.channel.isOpen) = true := by
  simp [justified thread h]

theorem Justified.spend (justified : Justified c S)
    (reach : Protocol.Reachable fd c) (hstep : Step fd c events c') :
    Justified c' (update S thread (S thread).spend) := by
  refine justified.step reach hstep fun h => .inl ?_
  rwa [Ne, Course.spend_eq_undisturbed] at h

theorem Justified.answer {call : Call} {answer : call.Answer}
    (justified : Justified c S) (reach : Protocol.Reachable fd c)
    (hstep : Step fd c events c') :
    Justified c' (update S thread
      ((S thread).answered (!c.channel.isOpen) call answer)) := by
  refine justified.step reach hstep fun h => ?_
  obtain hs | hclosed := Course.answered_ne h
  · exact .inl hs
  · exact .inr (by simpa using hclosed)

theorem justified_preserved (fd : Fd) :
    overtaking.Preserves fd fun _ c S => Justified c S where
  begin := fun justified reach idle _ isLive hasGuard =>
    justified.step reach (.begin idle isLive hasGuard) (absurd rfl)
  drop := by
    intro trace c S thread justified reach idle rest unguarded isLive
    have hstep : Step fd c [.began thread .close] _ :=
      .drop idle unguarded isLive
    exact justified.step reach hstep (absurd rfl)
  act := fun {_ _ S thread _ _ _ _ _ _}
      justified reach running answered takes =>
    ⟨(S thread).spend, fun hc => (takes hc).act answered (justified thread),
      justified.spend reach (.act running answered)⟩
  pause := fun {_ _ S thread _ _ _} justified reach running takes =>
    ⟨(S thread).spend, fun hc => (takes hc).pause,
      justified.spend reach (.pause running)⟩
  unroll := fun justified _ _ => justified
  call := fun justified _ _ _ => justified
  answer :=
    fun {_ c S thread _ call _ _} answer justified reach calling _ takes =>
    ⟨(S thread).answered (!c.channel.isOpen) call answer,
      fun hc => (takes hc).answer answer justified.answered_closed,
      justified.answer reach (.answer answer calling)⟩
  finish := fun justified reach running _ =>
    justified.step reach (.finish running) (absurd rfl)

end Steps

/-! ## The way out -/

/-- How far a thread has got since it was inside a call. -/
inductive Leaving (thread : Thread) (operation : Channel.Operation)
    (call : Call) (next : call.Answer → Program Channel.Reply) (trace : Trace)
    (c : Config) (S : Thread → Course) : Prop where
  | inside (calling : c.activity thread = .calling operation call next)
      (untouched : trace.own thread = [])
  | overtaken (credit : Nat)
      (course : S thread = .overtaken (trace.own thread).gain credit)
      (effort : (trace.own thread).effort + credit ≤ Course.patience)
      (calls : ∀ request, .called thread request ∈ trace.own thread →
        request.isBlocking = true →
        request.isTransfer = true)
      (inHand : (c.activity thread).operation? = some operation)
  | ended {operation' : Channel.Operation} {reply : Channel.Reply}
      (ended : .ended thread operation' reply ∈ trace)

section Leaving

variable {fd : Fd} {thread t : Thread}
  {operation operation' : Channel.Operation} {call : Call}
  {next : call.Answer → Program Channel.Reply} {trace : Trace} {c c' : Config}
  {S S' : Thread → Course} {event : Event}

theorem Leaving.frame (leaving : Leaving thread operation call next trace c S)
    (hother : event.thread ≠ thread)
    (hactivity : c'.activity thread = c.activity thread)
    (hcourse : S' thread = S thread) :
    Leaving thread operation call next (trace ++ [event]) c' S' := by
  have hown := Trace.own_append_other trace hother
  cases leaving with
  | inside calling untouched =>
      exact .inside (hactivity.trans calling) (hown.trans untouched)
  | overtaken credit course effort calls inHand =>
      refine .overtaken _ ?_ (by rwa [hown]) ?_ ?_
      · rw [hown, hcourse, course]
      · rwa [hown]
      · rw [hactivity, inHand]
  | ended h => exact .ended (List.mem_append_left _ h)

theorem Leaving.of_idle (leaving : Leaving thread operation call next trace c S)
    (idle : c.activity thread = .idle) :
    Leaving thread operation call next (trace ++ [event]) c' S' := by
  cases leaving with
  | inside calling =>
      rw [idle] at calling
      cases calling
  | overtaken _ _ _ _ inHand =>
      rw [idle] at inHand
      cases inHand
  | ended h => exact .ended (List.mem_append_left _ h)

theorem Leaving.unroll {β : Type} {body : Program (Option β)}
    {rest : β → Program Channel.Reply}
    (leaving : Leaving thread operation call next trace c S)
    (running : c.activity t = .running operation' (.loop body rest)) :
    Leaving thread operation call next trace
      (c.set t (.running operation' (.unroll body rest))) S := by
  by_cases ht : t = thread
  · subst ht
    cases leaving with
    | inside calling =>
        rw [running] at calling
        cases calling
    | overtaken credit course effort calls inHand =>
        refine .overtaken credit course effort calls ?_
        rw [running] at inHand
        simpa using inHand
    | ended h => exact .ended h
  · have hsame :
        (c.set t (.running operation' (.unroll body rest))).activity thread =
        c.activity thread := by
      simp [Ne.symm ht]
    cases leaving with
    | inside calling untouched => exact .inside (hsame.trans calling) untouched
    | overtaken credit course effort calls inHand =>
        exact .overtaken credit course effort calls (hsame ▸ inHand)
    | ended h => exact .ended h

theorem gain?_of_not_isBlocking {request : Call}
    (h : request.isBlocking = false) (answer : request.Answer) :
    request.gain? answer = none := by
  cases request <;> first | rfl | cases h

theorem effort_answered {request : Call} {answer : request.Answer} :
    Trace.effort [.answered thread request answer] =
      if request.isInterrupted answer then 0 else 1 := by
  cases h : request.isInterrupted answer <;> simp [Trace.effort, h]

theorem gain_answered {request : Call} {answer : request.Answer} :
    Trace.gain [.answered thread request answer] = request.gain? answer := by
  cases h : request.gain? answer <;> simp [Trace.gain, h]

/-- What an overtaken thread does next is taken from its credit. -/
theorem Leaving.go_on {credit : Nat} (credit' : Nat)
    (hthread : event.thread = thread)
    (effort : (trace.own thread).effort + credit ≤ Course.patience)
    (calls : ∀ request, .called thread request ∈ trace.own thread →
      request.isBlocking = true → request.isTransfer = true)
    (course : S' thread = .overtaken
      ((trace.own thread).gain.or (Trace.gain [event])) credit')
    (spent : Trace.effort [event] + credit' ≤ credit)
    (allowed : ∀ request, event = .called thread request →
      request.isBlocking = true → request.isTransfer = true)
    (inHand : (c'.activity thread).operation? = some operation) :
    Leaving thread operation call next (trace ++ [event]) c' S' := by
  have hown := Trace.own_append_same trace hthread
  refine .overtaken credit' ?_ ?_ ?_ inHand
  · rw [hown, Trace.gain_append, course]
  · rw [hown, Trace.effort_append]
    omega
  · intro request hmem
    rw [hown] at hmem
    obtain hbefore | hnow := List.mem_append.mp hmem
    · exact calls request hbefore
    · exact allowed request (List.mem_singleton.mp hnow).symm

theorem Leaving.spend {action : Action}
    {rest : action.Result → Program Channel.Reply}
    {k : action.Result → Course → Prop}
    (leaving : Leaving thread operation call next trace c S)
    (running : c.activity thread = .running operation' (.act action rest))
    (takes : (S thread).Takes action k)
    (hoperation : (c'.activity thread).operation? =
      (c.activity thread).operation?) :
    Leaving thread operation call next (trace ++ [.acted thread action]) c'
      (update S thread (S thread).spend) := by
  cases leaving with
  | inside calling untouched =>
      rw [running] at calling
      cases calling
  | overtaken credit course effort calls inHand =>
      rw [course] at takes
      have hpos := takes.credit
      have heffort : Trace.effort [.acted thread action] = 1 := rfl
      refine .go_on (credit - 1) rfl effort calls ?_ (by omega)
        (fun request h => by cases h) (hoperation.trans inHand)
      rw [update_self, course]
      simp [Course.spend, Trace.gain]
  | ended h => exact .ended (List.mem_append_left _ h)

theorem Leaving.called {request : Call}
    {rest : request.Answer → Program Channel.Reply}
    {k : request.Answer → Course → Prop}
    (leaving : Leaving thread operation call next trace c S)
    (running : c.activity thread =
      .running operation' (.act (.call request) rest))
    (takes : (S thread).Takes (.call request) k)
    (hoperation : (c'.activity thread).operation? =
      (c.activity thread).operation?) :
    Leaving thread operation call next
      (trace ++ [.called thread request]) c' S := by
  cases leaving with
  | inside calling untouched =>
      rw [running] at calling
      cases calling
  | overtaken credit course effort calls inHand =>
      have heffort : Trace.effort [.called thread request] = 0 := rfl
      refine .go_on credit rfl effort calls ?_ (by omega) ?_
        (hoperation.trans inHand)
      · rw [course]
        simp [Trace.gain]
      · intro request' h blocking
        cases h
        rw [course] at takes
        simp only [Course.Takes, blocking, if_true] at takes
        exact takes.1
  | ended h => exact .ended (List.mem_append_left _ h)

theorem Course.answered_of_isBlocking {request : Call}
    (blocking : request.isBlocking = true) (s : Course)
    (answer : request.Answer) : s.answered true request answer =
      .overtaken (request.gain? answer)
        (if request.isInterrupted answer then patience else patience - 1) := by
  simp [answered, after, blocking]

/-- An attempt that is interrupted costs nothing; any other answer leaves one
action less. -/
theorem effort_answered_le {request : Call} (answer : request.Answer) :
    Trace.effort [.answered thread request answer] +
      (if request.isInterrupted answer then Course.patience
       else Course.patience - 1) ≤
        Course.patience := by
  rw [effort_answered]
  split <;> decide

theorem Leaving.answered {request : Call}
    {rest : request.Answer → Program Channel.Reply}
    {k : request.Answer → Course → Prop} (blocking : call.isBlocking = true)
    (leaving : Leaving thread operation call next trace c S)
    (answer : request.Answer)
    (calling : c.activity thread = .calling operation' request rest)
    (takes : (S thread).Takes (.call request) k)
    (hoperation : (c'.activity thread).operation? =
      (c.activity thread).operation?) :
    Leaving thread operation call next
      (trace ++ [.answered thread request answer]) c'
      (update S thread ((S thread).answered true request answer)) := by
  have hallowed : ∀ request', Event.answered thread request answer =
      .called thread request' →
      request'.isBlocking = true → request'.isTransfer = true := by
    intro request' h
    cases h
  cases leaving with
  | inside inside untouched =>
      rw [calling] at inside
      cases inside
      have heffort : (trace.own thread).effort + Course.patience ≤
          Course.patience := by
        rw [untouched]
        exact Nat.le_refl _
      refine .go_on _ rfl heffort ?_ ?_ (effort_answered_le answer) hallowed ?_
      · intro request' hmem
        rw [untouched] at hmem
        cases hmem
      · rw [update_self, Course.answered_of_isBlocking blocking, untouched,
          gain_answered]
        rfl
      · rw [hoperation, calling]
        rfl
  | overtaken credit course effort calls inHand =>
      have hinHand := hoperation.trans inHand
      rw [course] at takes ⊢
      cases hrequest : request.isBlocking with
      | true =>
          -- only a transfer that has brought nothing yet is repeated, with all
          -- credit left
          simp only [Course.Takes, hrequest, if_true] at takes
          obtain ⟨-, hnone, rfl, -⟩ := takes
          refine .go_on _ rfl effort calls ?_
            (effort_answered_le answer) hallowed hinHand
          rw [update_self, Course.answered_of_isBlocking hrequest, hnone,
            gain_answered, Option.none_or]
      | false =>
          have hpos := takes.credit
          have hgain : Trace.gain [.answered thread request answer] = none := by
            rw [gain_answered, gain?_of_not_isBlocking hrequest]
          have heffort : Trace.effort [.answered thread request answer] = _ :=
            effort_answered
          cases hinterrupted : request.isInterrupted answer with
          | true =>
              rw [hinterrupted, if_pos rfl] at heffort
              refine .go_on credit rfl effort calls ?_
                (by omega) hallowed hinHand
              rw [update_self, hgain, Option.or_none]
              simp [Course.answered, hrequest, hinterrupted]
          | false =>
              rw [hinterrupted, if_neg Bool.false_ne_true] at heffort
              refine .go_on (credit - 1) rfl effort calls ?_
                (by omega) hallowed hinHand
              rw [update_self, hgain, Option.or_none]
              simp [Course.answered, Course.spend, hrequest, hinterrupted]
  | ended h => exact .ended (List.mem_append_left _ h)

end Leaving

/-- What is preserved from the moment on at which a thread is inside a call on a
channel that has been closed. -/
structure Pursued (thread : Thread) (operation : Channel.Operation)
    (call : Call) (next : call.Answer → Program Channel.Reply) (trace : Trace)
    (c : Config) (S : Thread → Course) : Prop where
  justified : Justified c S
  closed : c.channel.isOpen = false
  leaving : Leaving thread operation call next trace c S

section Pursued

variable {fd : Fd} {thread : Thread} {operation : Channel.Operation}
  {call : Call} {next : call.Answer → Program Channel.Reply}

theorem pursued_preserved (fd : Fd) (blocking : call.isBlocking = true) :
    overtaking.Preserves fd (Pursued thread operation call next) where
  begin := by
    intro trace c S t other pursued reach idle rest isLive hasGuard
    have hstep : Step fd c _ _ := .begin idle isLive hasGuard
    refine ⟨pursued.justified.step reach hstep (absurd rfl),
      hstep.closed reach pursued.closed, ?_⟩
    by_cases ht : t = thread
    · subst ht
      exact pursued.leaving.of_idle idle
    · exact pursued.leaving.frame ht (by simp [Ne.symm ht])
        (by simp [Ne.symm ht])
  drop := by
    intro trace c S t pursued reach idle rest unguarded isLive
    have hstep : Step fd c [.began t .close] _ := .drop idle unguarded isLive
    refine ⟨pursued.justified.step reach hstep (absurd rfl),
      hstep.closed reach pursued.closed, ?_⟩
    exact pursued.leaving.of_idle (idle thread)
  act := by
    intro trace c S t other action channel result rest k pursued reach running
      answered takes
    have hstep : Step fd c _ _ := .act running answered
    refine ⟨(S t).spend, fun hc => (takes hc).act answered
      (pursued.justified t), ?_⟩
    refine ⟨pursued.justified.spend reach hstep,
      hstep.closed reach pursued.closed, ?_⟩
    by_cases ht : t = thread
    · subst ht
      refine pursued.leaving.spend running (takes trivial) ?_
      simp [running]
    · exact pursued.leaving.frame ht (by simp [Ne.symm ht])
        (by simp [Ne.symm ht])
  pause := by
    intro trace c S t other rest k pursued reach running takes
    have hstep : Step fd c _ _ := .pause running
    refine ⟨(S t).spend, fun hc => (takes hc).pause, ?_⟩
    refine ⟨pursued.justified.spend reach hstep,
      hstep.closed reach pursued.closed, ?_⟩
    by_cases ht : t = thread
    · subst ht
      refine pursued.leaving.spend running (takes trivial) ?_
      simp [running]
    · exact pursued.leaving.frame ht (by simp [Ne.symm ht])
        (by simp [Ne.symm ht])
  unroll := by
    intro trace c S t other β body rest pursued reach running
    exact ⟨pursued.justified, pursued.closed, pursued.leaving.unroll running⟩
  call := by
    intro trace c S t other request rest k pursued reach running takes
    have hstep : Step fd c _ _ := .call running
    refine ⟨pursued.justified, hstep.closed reach pursued.closed, ?_⟩
    by_cases ht : t = thread
    · subst ht
      refine pursued.leaving.called running (takes trivial) ?_
      simp [running]
    · exact pursued.leaving.frame ht (by simp [Ne.symm ht]) rfl
  answer := by
    intro trace c S t other request rest k answer pursued reach calling _ takes
    have hstep : Step fd c _ _ := .answer answer calling
    have hclosed : (!c.channel.isOpen) = true := by simp [pursued.closed]
    refine ⟨(S t).answered true request answer,
      fun hc => (takes hc).answer answer fun _ => rfl, ?_⟩
    refine ⟨?_, hstep.closed reach pursued.closed, ?_⟩
    · rw [← hclosed]
      exact pursued.justified.answer reach hstep
    · by_cases ht : t = thread
      · subst ht
        refine pursued.leaving.answered blocking answer calling
          (takes trivial) ?_
        simp [calling]
      · exact pursued.leaving.frame ht (by simp [Ne.symm ht])
          (by simp [Ne.symm ht])
  finish := by
    intro trace c S t other reply pursued reach running closes
    have hstep : Step fd c _ _ := .finish running
    refine ⟨pursued.justified.step reach hstep (absurd rfl),
      hstep.closed reach pursued.closed, ?_⟩
    by_cases ht : t = thread
    · subst ht
      exact .ended (List.mem_append_right _ (List.mem_singleton.mpr rfl))
    · exact pursued.leaving.frame ht (by simp [Ne.symm ht])
        (by simp [Ne.symm ht])

end Pursued

section End

variable {fd : Fd} {trace suffix : Trace} {c c' : Config} {thread : Thread}
  {operation : Channel.Operation} {call : Call}
  {next : call.Answer → Program Channel.Reply}

theorem Run.closed_of_hasShutDown (run : Run fd trace c)
    (shutDown : trace.HasShutDown) :
    c.channel.isOpen = false := by
  obtain ⟨S, coherent, _⟩ := run.coherent
  obtain ⟨thread, rest, hfirst, _⟩ := shutDown
  cases hopen : c.channel.isOpen with
  | false => rfl
  | true => simp [coherent.closedBy.opened.mp hopen] at hfirst

theorem Run.state_of_hasShutDown (run : Run fd trace c)
    (shutDown : trace.HasShutDown) :
    c.channel.fields.state = .killPending ∨
      c.channel.fields.state = .killed := by
  obtain ⟨S, coherent, _⟩ := run.coherent
  have hlive := coherent.not_live shutDown
  have hinit := coherent.phased.initialized
  cases h : c.channel.fields.state with
  | uninitialized => exact absurd h hinit
  | killPending => exact .inl rfl
  | killed => exact .inr rfl
  | _ => simp [h, Lifecycle.isLive] at hlive

theorem Run.not_recorded_of_idle (run : Run fd trace c)
    (idle : c.activity thread = .idle) :
    thread ∉ c.channel.fields.threads := by
  obtain ⟨S, coherent, keeps⟩ := run.coherent
  have hrest : S thread = {} := by
    have hkeeps := keeps thread
    rwa [idle] at hkeeps
  have hslot : ∀ direction, c.channel.fields.slot direction ≠ some thread := by
    intro direction h
    have hin := (coherent.recorded.slot thread direction).mpr h
    simp [hrest] at hin
  have hreader : c.channel.fields.reader ≠ some thread := hslot .input
  have hwriter : c.channel.fields.writer ≠ some thread := hslot .output
  simp [Fields.threads, hreader, hwriter]

/-- A thread that is inside a call when the channel is closed, from there
on. -/
theorem Run.pursued_of_closed (run : Run fd trace c)
    (calling : c.activity thread = .calling operation call next)
    (blocking : call.isBlocking = true) (closed : c.channel.isOpen = false)
    (steps : Steps fd c suffix c') :
    ∃ S, Pursued thread operation call next suffix c' S ∧
      ∀ t, overtaking.Keeps t (S t) (c'.activity t) := by
  obtain ⟨S, justified, keeps⟩ :=
    Protocol.run (Overtaking.obeyed fd) (justified_preserved fd)
      (fun _ _ t ht => absurd rfl ht) run fun _ _ _ _ => trivial
  exact Protocol.steps (Overtaking.obeyed fd)
    (pursued_preserved fd blocking) steps ⟨trace, run⟩
    (fun _ _ _ _ => trivial) ⟨justified, closed, .inside calling rfl⟩ keeps

theorem Run.pursued (run : Run fd trace c)
    (calling : c.activity thread = .calling operation call next)
    (blocking : call.isBlocking = true) (shutDown : trace.HasShutDown)
    (steps : Steps fd c suffix c') :
    ∃ S, Pursued thread operation call next suffix c' S ∧
      ∀ t, overtaking.Keeps t (S t) (c'.activity t) :=
  run.pursued_of_closed calling blocking (run.closed_of_hasShutDown shutDown)
    steps

theorem Run.holder_ne (run : Run fd trace c)
    {rest : Unit → Program Channel.Reply} {other : Thread}
    (running : c.activity thread =
      .running operation (.act (.acquire .state) rest))
    (held : c.channel.locks.state = some other) : other ≠ thread := by
  obtain ⟨S, coherent, keeps⟩ := run.coherent
  rintro rfl
  have hkeeps := keeps other
  rw [running] at hkeeps
  have hfields := coherent.locked.state other
  rw [if_pos held, (hkeeps trivial).2.1] at hfields
  cases hfields

/-- An overtaken thread can always go on, unless another one has the state
lock. -/
theorem Run.can_go_on (run : Run fd trace c) {gain : Option Gain} {credit : Nat}
    {rest : Program Channel.Reply}
    (running : c.activity thread = .running operation rest)
    (keeps : overtaking.Keeps thread (.overtaken gain credit)
      (c.activity thread)) :
    (∃ other, other ≠ thread ∧ c.channel.locks.state = some other) ∨
      (c.move fd (.step thread)).isSome = true := by
  rw [running] at keeps
  have hmeets := keeps trivial
  simp only [Config.move, running]
  cases rest with
  | done reply => exact .inr rfl
  | loop body next => exact .inr rfl
  | act action next =>
      cases action with
      | own => cases hmeets
      | acquire lock =>
          obtain rfl : lock = .state := hmeets.2.1
          cases hlock : c.channel.locks.state with
          | none =>
              refine .inr ?_
              simp [Config.advance, Channel.answer, Locks.holder, hlock]
          | some other => exact .inl ⟨other, run.holder_ne running hlock, rfl⟩
      | _ => exact .inr rfl

end End

/-- If a channel has been closed, its locked part included, while a thread is
inside a call in which it may be blocked, then from there on, as long as the
operation lasts: the channel never is live again, the thread makes no call in
which it may be blocked but repeated transfers, it takes no more than a few
actions, and is held up only by calls and by the state lock.  The operation ends
as asynchronously closed, unless its call has moved bytes or raised events, and
leaves no trace of the thread in the channel. -/
theorem overtaken_operation_ends {fd : Fd} {trace suffix : Trace}
    {c c' : Config} {thread : Thread} {operation : Channel.Operation}
    {call : Call} {next : call.Answer → Program Channel.Reply}
    (run : Run fd trace c)
    (calling : c.activity thread = .calling operation call next)
    (blocking : call.isBlocking = true) (shutDown : trace.HasShutDown)
    (steps : Steps fd c suffix c')
    (lasts : ∀ operation reply, .ended thread operation reply ∉ suffix) :
    (c'.channel.fields.state = .killPending ∨
      c'.channel.fields.state = .killed) ∧
      (∀ request, .called thread request ∈ suffix → request.isBlocking = true →
        request.isTransfer = true) ∧
      (suffix.own thread).effort ≤ Course.patience ∧
      ((∃ request rest, c'.activity thread = .calling operation request rest) ∨
        (∃ other, other ≠ thread ∧ c'.channel.locks.state = some other) ∨
        (c'.move fd (.step thread)).isSome = true) ∧
      ∀ operation' reply c'', Step fd c' [.ended thread operation' reply] c'' →
        operation' = operation ∧ operation.Ends (suffix.own thread).gain reply ∧
          thread ∉ c''.channel.fields.threads ∧
          (c''.channel.fields.state = .killPending ∨
            c''.channel.fields.state = .killed) := by
  obtain ⟨S, pursued, keeps⟩ := run.pursued calling blocking shutDown steps
  have run' := run.steps steps
  have hkeeps := keeps thread
  have shutDown' := shutDown.append suffix
  have hafter : ∀ operation' reply c'',
      Step fd c' [.ended thread operation' reply] c'' →
      thread ∉ c''.channel.fields.threads ∧
        (c''.channel.fields.state = .killPending ∨
          c''.channel.fields.state = .killed) := by
    intro operation' reply c'' hstep
    have run'' := run'.step hstep
    exact ⟨run''.not_recorded_of_idle hstep.idle_of_ended,
      run''.state_of_hasShutDown (shutDown'.append _)⟩
  refine ⟨run'.state_of_hasShutDown shutDown', ?_⟩
  cases pursued.leaving with
  | inside calling' untouched =>
      refine ⟨fun request hmem => ?_, ?_, .inl ⟨call, next, calling'⟩,
        fun operation' reply c'' hstep => ?_⟩
      · have hown : .called thread request ∈ suffix.own thread :=
          Trace.mem_own.mpr ⟨hmem, rfl⟩
        rw [untouched] at hown
        cases hown
      · rw [untouched]
        decide
      · have hdone := hstep.done_of_ended
        rw [calling'] at hdone
        cases hdone
  | overtaken credit course effort calls inHand =>
      rw [course] at hkeeps
      refine ⟨fun request hmem => calls request
        (Trace.mem_own.mpr ⟨hmem, rfl⟩), by omega, ?_,
        fun operation' reply c'' hstep => ?_⟩
      · cases hactivity : c'.activity thread with
        | idle =>
            rw [hactivity] at inHand
            cases inHand
        | running _ rest => exact .inr (run'.can_go_on hactivity hkeeps)
        | calling other request rest =>
            rw [hactivity] at inHand
            obtain rfl : other = operation := by
              simpa using inHand
            exact .inl ⟨request, rest, rfl⟩
      · have hdone := hstep.done_of_ended
        rw [hdone] at inHand hkeeps
        obtain rfl : operation' = operation := by
          simpa using inHand
        exact ⟨rfl, hkeeps trivial, hafter _ reply c'' hstep⟩
  | ended h => exact absurd h (lasts _ _)

/-- A thread is inside a read when another one closes the channel. -/
def untilOvertaken : List Move :=
  [[.begin 1 (.read ⟨[0, 0], 0⟩)], Move.steps 1 10, [.begin 2 .close],
    Move.steps 2 5, [.answer 2 fun _ => .error (.code Errno.interrupted)],
    Move.steps 2 3].flatten

/-- The read is interrupted and repeated, finds the end of the stream, and the
thread leaves; it is left to it to release the descriptor. -/
def untilLeft : List Move :=
  [[.answer 1 fun _ => .error (.code Errno.interrupted)], Move.steps 1 2,
    [.answer 1 fun
      | .read .. => .ok []
      | _ => .error (.code Errno.again)],
    Move.steps 1 7, [.answer 1 fun _ => .error (.code Errno.again)],
    Move.steps 1 3].flatten

theorem untilOvertaken_isSome :
    ((Config.start (.owning 3 .connected true)).play 3 untilOvertaken).isSome =
    true := by
  decide +kernel

def overtakenReader : Trace × Config :=
  ((Config.start (.owning 3 .connected true)).play 3 untilOvertaken).get
    untilOvertaken_isSome

theorem run_overtakenReader : Run 3 overtakenReader.1 overtakenReader.2 :=
  ⟨_, .wrapped true none, Config.steps_of_play
    (Option.some_get untilOvertaken_isSome).symm⟩

theorem untilLeft_isSome :
    (overtakenReader.2.play 3 untilLeft).isSome = true := by
  decide +kernel

def leavingReader : Trace × Config :=
  (overtakenReader.2.play 3 untilLeft).get untilLeft_isSome

theorem steps_leavingReader :
    Steps 3 overtakenReader.2 leavingReader.1 leavingReader.2 :=
  Config.steps_of_play (Option.some_get untilLeft_isSome).symm

theorem overtaken_reader_told : ∃ c reply,
    Run 3 overtakenReader.1 overtakenReader.2 ∧ overtakenReader.1.HasShutDown ∧
      Steps 3 overtakenReader.2 leavingReader.1 leavingReader.2 ∧
      (leavingReader.1.own 1).effort ≤ Course.patience ∧
      Step 3 leavingReader.2 [.ended 1 (.read ⟨[0, 0], 0⟩) reply] c ∧
      (∃ window, reply = .moved (.error .asynchronousClose) window) ∧
      1 ∉ c.channel.fields.threads := by
  have shutDown : overtakenReader.1.HasShutDown :=
    ⟨2, _, rfl, List.mem_of_getElem? (i := 7) rfl⟩
  have calling : overtakenReader.2.activity 1 =
      .calling (.read ⟨[0, 0], 0⟩) (.read 3 2) _ := rfl
  have lasts : ∀ operation reply,
      .ended 1 operation reply ∉ leavingReader.1 := by
    intro operation reply h
    have hall : (leavingReader.1.all fun | .ended .. => false | _ => true) =
        true := by
      decide +kernel
    simpa using List.all_eq_true.mp hall _ h
  have ends := overtaken_operation_ends run_overtakenReader calling rfl shutDown
    steps_leavingReader lasts
  have step : Step 3 leavingReader.2 [.ended 1 (.read ⟨[0, 0], 0⟩) _] _ :=
    Config.step_of_move (m := .step 1) rfl
  obtain ⟨_, _, heffort, _, hend⟩ := ends
  obtain ⟨_, hreply, hleft, _⟩ := hend _ _ _ step
  exact ⟨_, _, run_overtakenReader, shutDown, steps_leavingReader, heffort,
    step, hreply, hleft⟩

end LocalSocket
