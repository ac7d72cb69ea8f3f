import LocalSocket.Proofs.Aloof
import LocalSocket.Proofs.Windows

/-!
# What operations carry

The system says with the answer to a call which bytes it has delivered or
accepted.  The count that comes with them goes through the repetition of
interrupted calls, the positions of the windows and the end of the transfer,
where the channel may have been closed or shut down meanwhile.  At the end of
the operation it is told if bytes were carried, and only then.
-/

namespace LocalSocket

/-! ## Bytes carried by calls -/

/-- The bytes that have been delivered, or accepted, with the answer to a
call. -/
def Call.carried (direction : Direction) : (call : Call) → call.Answer → Bytes
  | .read .., .ok data => if direction = .input then data else []
  | .readMany .., .ok data => if direction = .input then data else []
  | .write _ bytes, .ok count =>
      if direction = .output then bytes.take count else []
  | .writeMany _ parts, .ok count =>
      if direction = .output then parts.flatten.take count else []
  | _, _ => []

/-- The system delivers and accepts at most what it has been offered. -/
def Call.isFaithful : (call : Call) → call.Answer → Bool
  | .read _ length, .ok data => decide (data.length ≤ length)
  | .readMany _ lengths, .ok data => decide (data.length ≤ total lengths)
  | .write _ bytes, .ok count => decide (count ≤ bytes.length)
  | .writeMany _ parts, .ok count => decide (count ≤ parts.flatten.length)
  | _, _ => true

theorem Call.carried_error (direction : Direction) (call : Call)
    (error : OsError) :
    call.carried direction (.error error) = [] := by
  cases call <;> rfl

/-! ## Counts that are told -/

def transferred? {ε : Type} : Except ε IoStatus → Option Nat
  | .ok (.transferred count) => some count
  | _ => none

/-- Bytes have been carried if and only if their number is told. -/
def Tells (count? : Option Nat) (data : Bytes) : Prop :=
  ∀ count, 0 < count → (count? = some count ↔ data.length = count)

theorem tells_length (data : Bytes) : Tells (some data.length) data := by
  intro count _
  exact Option.some_inj

theorem movedSomething_eq_true {ε : Type} {outcome : Except ε IoStatus} :
    movedSomething outcome = true ↔
      ∃ count, 0 < count ∧ transferred? outcome = some count := by
  rcases outcome with error | count | _ | _
  · simp [movedSomething, transferred?]
  · simp [movedSomething, IoStatus.madeProgress, transferred?]
  · simp [movedSomething, IoStatus.madeProgress, transferred?]
  · simp [movedSomething, IoStatus.madeProgress, transferred?]

theorem tells_nothing {ε : Type} {outcome : Except ε IoStatus}
    (h : movedSomething outcome = false) : Tells (transferred? outcome) [] := by
  intro count hcount
  constructor
  · intro htransferred
    have hmoved := movedSomething_eq_true.mpr ⟨count, hcount, htransferred⟩
    rw [h] at hmoved
    cases hmoved
  · intro hlength
    rw [List.length_nil] at hlength
    omega

theorem Tells.eq_nil {ε : Type} {outcome : Except ε IoStatus} {data : Bytes}
    (h : Tells (transferred? outcome) data)
    (hmoved : movedSomething outcome = false) :
    data = [] := by
  by_contra hdata
  have hlength : 0 < data.length := List.length_pos_iff.mpr hdata
  have htransferred := (h data.length hlength).mpr rfl
  rw [movedSomething_eq_true.mpr ⟨_, hlength, htransferred⟩] at hmoved
  cases hmoved

/-- Windows that have moved on, having been passed `data`; they hold it already
if it is sent. -/
structure Passes (direction : Direction) (windows onward : List Window)
    (data : Bytes) : Prop where
  fits : data.length ≤ Window.roomAll windows
  passed : onward = Window.passAll windows data
  sent : direction = .output → data <+: Window.remainingAll windows

structure Conveyed (direction : Direction) (windows onward : List Window)
    (count? : Option Nat) (data : Bytes) : Prop where
  passes : Passes direction windows onward data
  told : Tells count? data

theorem passes_nil {direction : Direction} {windows : List Window}
    (sound : ∀ window ∈ windows, window.IsSound) :
    Passes direction windows windows [] where
  fits := Nat.zero_le _
  passed := (Window.passAll_nil sound).symm
  sent := fun _ => List.nil_prefix

theorem Passes.trans {direction : Direction}
    {windows between onward : List Window} {data more : Bytes}
    (sound : ∀ window ∈ windows, window.IsSound)
    (h : Passes direction windows between data)
    (h' : Passes direction between onward more) :
    Passes direction windows onward (data ++ more) := by
  have hbetween := h.passed
  subst hbetween
  have hfits := h.fits
  have hmore := h'.fits
  rw [Window.roomAll_passAll sound] at hmore
  refine ⟨?_, ?_, fun output => ?_⟩
  · rw [List.length_append]
    omega
  · rw [h'.passed, Window.passAll_passAll sound (by omega)]
  · have hsent := h'.sent output
    rw [Window.remainingAll_passAll sound] at hsent
    have hsplit := List.take_append_drop data.length
        (Window.remainingAll windows)
    rw [← List.prefix_iff_eq_take.mp (h.sent output)] at hsplit
    rw [← hsplit]
    exact (List.prefix_append_right_inj data).mpr hsent

/-- What is passed to windows behind exhausted ones is passed to all of them. -/
theorem Passes.extend {direction : Direction}
    {full windows onward rest : List Window} {data : Bytes}
    (sound : ∀ window ∈ full ++ windows ++ rest, window.IsSound)
    (exhausted : ∀ window ∈ full, window.isExhausted = true)
    (h : Passes direction windows onward data) :
    Passes direction (full ++ windows ++ rest)
      (full ++ onward ++ rest) data := by
  have hroom := Window.roomAll_of_isExhausted exhausted
  have hfits := h.fits
  have soundFull : ∀ window ∈ full, window.IsSound := by
    intro window hmem
    exact sound window (by simp [hmem])
  have soundRest : ∀ window ∈ rest, window.IsSound := by
    intro window hmem
    exact sound window (by simp [hmem])
  refine ⟨?_, ?_, fun output => ?_⟩
  · rw [Window.roomAll_append, Window.roomAll_append]
    omega
  · rw [Window.passAll_append, Window.passAll_append, Window.roomAll_append,
      hroom, Nat.zero_add, List.take_of_length_le hfits,
      List.drop_eq_nil_of_le hfits, List.take_zero, List.drop_zero,
      Window.passAll_nil soundFull, Window.passAll_nil soundRest, h.passed]
  · have hremaining : Window.remainingAll full = [] := by
      apply List.eq_nil_of_length_eq_zero
      rw [Window.length_remainingAll, hroom]
    rw [Window.remainingAll, List.flatMap_append, List.flatMap_append]
    rw [Window.remainingAll] at hremaining
    rw [hremaining, List.nil_append]
    exact (h.sent output).trans (List.prefix_append _ _)

theorem conveyed_nothing {ε : Type} {direction : Direction}
    {windows : List Window} {outcome : Except ε IoStatus}
    (sound : ∀ window ∈ windows, window.IsSound)
    (h : movedSomething outcome = false) :
    Conveyed direction windows windows (transferred? outcome) [] :=
  ⟨passes_nil sound, tells_nothing h⟩

/-! ## The operations that carry -/

namespace Channel

/-- An operation is called with windows: with the windows themselves, or as a
plain stream, with a part of what remains of a single one. -/
def Operation.Offers (direction : Direction) (windows : List Window) :
    Operation → Prop
  | .read window => direction = .input ∧ windows = [window]
  | .readMany windows' => direction = .input ∧ windows = windows'
  | .receive length =>
      direction = .input ∧ ∃ window, windows = [window] ∧ length ≤ window.room
  | .write window => direction = .output ∧ windows = [window]
  | .writeMany windows' => direction = .output ∧ windows = windows'
  | .send bytes =>
      direction = .output ∧ ∃ window, windows = [window] ∧
      bytes <+: window.remaining
  | _ => False

def Reply.transferred? : Reply → Option Nat
  | .moved outcome _ => LocalSocket.transferred? outcome
  | .movedMany outcome _ => LocalSocket.transferred? outcome
  | .received count _ => some count
  | .sent count => some count
  | _ => none

/-- Where an operation leaves the windows.  A caller of a plain stream goes on
behind as many bytes as it is told. -/
def Reply.windows (windows : List Window) : Reply → List Window
  | .moved _ window => [window]
  | .movedMany _ windows' => windows'
  | .received count buffer => Window.passAll windows (buffer.take count)
  | .sent count => Window.advanceAll windows count
  | _ => windows

end Channel

/-! ## The protocol -/

abbrev Cargo := Direction → Bytes

namespace Cargo

def empty : Cargo := fun _ => []

def only (direction : Direction) (data : Bytes) : Cargo :=
  fun other => if other = direction then data else []

def after (s : Cargo) : (action : Action) → action.Result → Cargo
  | .call call, answer =>
      fun direction => s direction ++ call.carried direction answer
  | _, _ => s

theorem only_nil (direction : Direction) : only direction [] = empty := by
  funext other
  simp [only, empty]

@[simp] theorem only_self (direction : Direction) (data : Bytes) :
    only direction data direction = data := if_pos rfl

theorem after_error (s : Cargo) (call : Call) (error : OsError) :
    s.after (.call call) (.error error) = s := by
  funext direction
  simp [after, Call.carried_error]

theorem after_of_isAloof (s : Cargo) {action : Action}
    (h : action.isAloof = true) (result : action.Result) :
    s.after action result = s := by
  cases action with
  | call call =>
      funext direction
      have hcarried : call.carried direction result = [] := by
        cases call <;> first | rfl | cases h
      simp [after, hcarried]
  | _ => rfl

end Cargo

def Action.isFaithful : (action : Action) → action.Result → Bool
  | .call request, answer => request.isFaithful answer
  | _, _ => true

/-- An operation that is called with windows tells of what has been carried, and
leaves the windows behind it. -/
def Channel.Operation.Delivers (operation : Operation) (reply : Reply)
    (s : Cargo) : Prop :=
  ∀ direction windows, operation.Offers direction windows →
    (∀ window ∈ windows, window.IsSound) →
      s = .only direction (s direction) ∧
        Conveyed direction windows (reply.windows windows) reply.transferred?
          (s direction)

/-- Threads may do what they like; what their calls carry is kept account of. -/
def carrying : Protocol Cargo where
  act _ s action k := ∀ result, action.isFaithful result = true →
    k result (s.after action result)
  mono := fun himp h result faithful => himp _ _ (h result faithful)
  rest := .empty
  opens := fun _ => .empty
  closes := Channel.Operation.Delivers
  covers := fun operation => ∃ direction windows,
      operation.Offers direction windows ∧
    ∀ window ∈ windows, window.IsSound
  trusts := fun call answer => call.isFaithful answer = true

namespace Carrying

open Protocol Channel

variable {fd : Fd} {thread : Thread} {s : Cargo} {α β : Type}

theorem meets_of_isAloof {program : Program α} {post : α → Cargo → Prop}
    (h : program.IsAloof) (hpost : ∀ value, post value s) :
    carrying.Meets thread program post s := by
  refine Meets.of_aloof (fun {action k} haloof hk result _ => ?_)
    (h.meets fun value => hpost value)
  rw [s.after_of_isAloof haloof]
  exact hk result

theorem retry_meets {call : Call} {post : call.Answer → Cargo → Prop}
    (hpost : ∀ answer, call.isFaithful answer = true →
      post answer (s.after (.call call) answer)) :
    carrying.Meets thread (Program.retry call) post s := by
  -- interrupted attempts carry nothing
  refine meets_retry (fun s' => s' = s) rfl ?_
  rintro s' rfl answer faithful
  cases answer with
  | ok value => exact hpost (.ok value) faithful
  | error error =>
      by_cases hinterrupted : error.isInterrupted = true
      · simpa [hinterrupted] using s'.after_error call error
      · simpa [hinterrupted] using hpost (.error error) faithful

/-! ## Transfers -/

/-- A program whose outcome tells what its call has carried, and which leaves
the windows behind it. -/
def Conveys (direction : Direction) (windows : List Window)
    (view : β → List Window)
    (transfer : Program (Except OsError IoStatus × β)) : Prop :=
  ∀ ⦃thread : Thread⦄ ⦃post : Except OsError IoStatus × β → Cargo → Prop⦄,
    (∀ outcome buffers data,
      Conveyed direction windows (view buffers) (transferred? outcome) data →
        post (outcome, buffers) (.only direction data)) →
      carrying.Meets thread transfer post .empty

theorem conveys_retry {direction : Direction} {windows : List Window}
    (view : β → List Window) {call : Call} {exhausted : Bool} {buffers : β}
    {next : call.Answer → Program (Except OsError IoStatus × β)}
    (sound : ∀ window ∈ windows, window.IsSound)
    (hview : view buffers = windows)
    (hnext : ∀ answer, call.isFaithful answer = true →
      ∃ outcome buffers data, next answer = pure (outcome, buffers) ∧
      (fun other => call.carried other answer) = Cargo.only direction data ∧
      Conveyed direction windows (view buffers) (transferred? outcome) data) :
    Conveys direction windows view
      (if exhausted then pure (.ok (.transferred 0), buffers)
        else Program.retry call >>= next) := by
  intro thread post hpost
  split
  · have hnothing := hpost (.ok (.transferred 0)) buffers []
      (hview.symm ▸ conveyed_nothing sound rfl)
    rw [Cargo.only_nil] at hnothing
    exact hnothing
  · rw [meets_bind_eq]
    refine retry_meets fun answer faithful => ?_
    obtain ⟨outcome, buffers, data, hvalue, hcarried, conveyed⟩ :=
      hnext answer faithful
    have hafter : Cargo.empty.after (.call call) answer =
        .only direction data := hcarried
    rw [hvalue, hafter]
    exact hpost outcome buffers data conveyed

theorem carried_error_eq_only (direction : Direction) (call : Call)
    (error : OsError) :
    (fun other => call.carried other (.error error)) =
    Cargo.only direction [] := by
  funext other
  rw [Call.carried_error]
  simp [Cargo.only]

theorem movedSomething_idle (error : OsError) :
    movedSomething (Socket.idle error) = false := by
  unfold Socket.idle
  split <;> rfl

section Socket

variable {window : Window} {windows : List Window}

theorem socketRead_conveys (sound : ∀ window' ∈ [window], window'.IsSound) :
    Conveys .input [window] (fun window => [window])
      (Socket.read fd window) := by
  refine conveys_retry (fun window => [window]) sound rfl
    fun answer faithful => ?_
  rcases answer with error | _ | ⟨byte, rest⟩
  · exact ⟨_, _, [], rfl, carried_error_eq_only _ _ _,
      conveyed_nothing sound (movedSomething_idle error)⟩
  · exact ⟨_, _, [], rfl, rfl, conveyed_nothing sound rfl⟩
  · have hfits : (byte :: rest).length ≤ window.room :=
      of_decide_eq_true faithful
    refine ⟨_, _, byte :: rest, rfl, rfl, ⟨?_, ?_, fun h => by cases h⟩,
      tells_length _⟩
    · simpa using hfits
    · rw [Window.passAll, List.take_of_length_le hfits]
      rfl

theorem socketReadMany_conveys (sound : ∀ window ∈ windows, window.IsSound) :
    Conveys .input windows id (Socket.readMany fd windows) := by
  refine conveys_retry id sound rfl fun answer faithful => ?_
  rcases answer with error | _ | ⟨byte, rest⟩
  · exact ⟨_, _, [], rfl, carried_error_eq_only _ _ _,
      conveyed_nothing sound (movedSomething_idle error)⟩
  · exact ⟨_, _, [], rfl, rfl, conveyed_nothing sound rfl⟩
  · exact ⟨_, _, byte :: rest, rfl, rfl,
      ⟨of_decide_eq_true faithful, Window.advanceAll_fillAll _ _,
        fun h => by cases h⟩, tells_length _⟩

theorem conveyed_sent {count : Nat} (hcount : count ≤ Window.roomAll windows) :
    Conveyed .output windows (Window.advanceAll windows count)
      (some count) ((Window.remainingAll windows).take count) := by
  have hlength : ((Window.remainingAll windows).take count).length = count := by
    rw [List.length_take, Window.length_remainingAll]
    exact Nat.min_eq_left hcount
  refine ⟨⟨?_, Window.advanceAll_eq _ _, fun _ => List.take_prefix _ _⟩, ?_⟩
  · rw [hlength]
    exact hcount
  · have htold := tells_length ((Window.remainingAll windows).take count)
    rw [hlength] at htold
    exact htold

theorem advanceAll_singleton {count : Nat} (hcount : count ≤ window.room) :
    Window.advanceAll [window] count = [window.advance count] := by
  rw [Window.advanceAll, Nat.min_eq_left hcount]
  rfl

theorem socketWrite_conveys (sound : ∀ window' ∈ [window], window'.IsSound) :
    Conveys .output [window] (fun window => [window])
      (Socket.write fd window) := by
  refine conveys_retry (fun window => [window]) sound rfl
    fun answer faithful => ?_
  rcases answer with error | count
  · exact ⟨_, _, [], rfl, carried_error_eq_only _ _ _,
      conveyed_nothing sound (movedSomething_idle error)⟩
  · have hcount : count ≤ window.room := by
      rw [← window.length_remaining]
      exact of_decide_eq_true faithful
    have hroom : count ≤ Window.roomAll [window] := by simpa using hcount
    have hsent := conveyed_sent hroom
    rw [advanceAll_singleton hcount, Window.remainingAll_cons,
      Window.remainingAll, List.flatMap_nil, List.append_nil] at hsent
    exact ⟨_, _, _, rfl, rfl, hsent⟩

theorem socketWriteMany_conveys (sound : ∀ window ∈ windows, window.IsSound) :
    Conveys .output windows id (Socket.writeMany fd windows) := by
  refine conveys_retry id sound rfl fun answer faithful => ?_
  rcases answer with error | count
  · exact ⟨_, _, [], rfl, carried_error_eq_only _ _ _,
      conveyed_nothing sound (movedSomething_idle error)⟩
  · have hcount : count ≤ Window.roomAll windows := by
      rw [← Window.length_remainingAll]
      exact of_decide_eq_true faithful
    exact ⟨_, _, _, rfl, rfl, conveyed_sent hcount⟩

end Socket

/-! ## The way through the channel -/

theorem perform_meets {action : Action} {next : action.Result → Operating α}
    {post : Except ChannelError α → Cargo → Prop}
    (haloof : action.isAloof = true)
    (hnext : ∀ result, carrying.Meets thread (next result).run post s) :
    carrying.Meets thread (Operating.perform action >>= next).run post s := by
  rw [meets_run_bind, Operating.perform, meets_run_lift]
  exact meets_of_isAloof (.perform haloof) hnext

theorem leave_completed_meets (direction : Direction)
    {post : Except ChannelError Unit → Cargo → Prop} (hpost : post (.ok ()) s) :
    carrying.Meets thread (leave direction true).run post s := by
  rw [leave, meets_run_bind, meets_run_holding]
  refine fun _ _ => perform_meets rfl fun fields => perform_meets rfl
    fun _ => ?_
  rw [meets_run_ite]
  by_cases hpending : fields.state = .killPending
  · rw [if_pos hpending, meets_run_quietly]
    exact meets_of_isAloof release_isAloof fun _ => fun _ _ => hpost
  · rw [if_neg hpending]
    exact fun _ _ => hpost

theorem endTransfer_meets {direction : Direction}
    {result : Except OsError IoStatus}
    {post : Except ChannelError Bool → Cargo → Prop}
    (hcompleted : post (.ok true) s)
    (hother : movedSomething result = false → ∀ ended, post ended s) :
    carrying.Meets thread (endTransfer direction result).run post s := by
  simp only [endTransfer, meets_run_bind]
  cases h : movedSomething result with
  | true => exact leave_completed_meets direction hcompleted
  | false =>
      refine meets_of_isAloof (leave_isAloof _ _) fun left => ?_
      cases left with
      | error error => exact hother h _
      | ok =>
          exact meets_of_isAloof (isDirectionOpen_isAloof direction) (hother h)

theorem transferred?_mapError (result : Except OsError IoStatus) :
    transferred? (result.mapError ChannelError.socket) =
      transferred? result := by
  rcases result with error | count | _ | _ <;> rfl

theorem transferWith_meets {direction : Direction} {windows : List Window}
    {view : β → List Window}
    {shutBefore shutMeanwhile : Except ChannelError IoStatus} {buffers : β}
    {transfer : Program (Except OsError IoStatus × β)}
    {post : Except ChannelError IoStatus × β → Cargo → Prop}
    (sound : ∀ window ∈ windows, window.IsSound)
    (hview : view buffers = windows)
    (hbefore : movedSomething shutBefore = false)
    (hmeanwhile : movedSomething shutMeanwhile = false)
    (conveys : Conveys direction windows view transfer)
    (hpost : ∀ outcome buffers data,
      Conveyed direction windows (view buffers)
        (transferred? outcome) data → post (outcome, buffers)
      (.only direction data)) :
    carrying.Meets thread
      (transferWith direction shutBefore shutMeanwhile buffers transfer) post
      .empty := by
  have hnothing : ∀ outcome, movedSomething outcome = false →
      post (outcome, buffers) .empty := by
    intro outcome hmoved
    rw [← Cargo.only_nil direction]
    exact hpost outcome buffers [] (hview.symm ▸ conveyed_nothing sound hmoved)
  rw [transferWith, meets_holding]
  refine fun _ _ => ?_
  rw [meets_bind_eq]
  refine meets_of_isAloof (beginTransfer_isAloof direction) fun begun => ?_
  rcases begun with error | _ | _
  · exact fun _ _ => hnothing _ rfl
  · exact fun _ _ => hnothing _ hbefore
  · rw [meets_bind_eq]
    refine conveys fun outcome buffers' data conveyed => ?_
    simp only [meets_bind_eq]
    refine endTransfer_meets (fun _ _ => ?_) fun hmoved ended => ?_
    · refine hpost _ _ _ ?_
      rw [transferred?_mapError]
      exact conveyed
    · -- nothing was moved, and no outcome in its place says otherwise
      have hdata := conveyed.told.eq_nil hmoved
      subst hdata
      have hunmoved : ∀ outcome', movedSomething outcome' = false →
          post (outcome', buffers') (.only direction []) := by
        intro outcome' hmoved'
        exact hpost _ _ _ { conveyed with told := tells_nothing hmoved' }
      rcases ended with error | _ | _
      · exact fun _ _ => hunmoved _ rfl
      · exact fun _ _ => hunmoved _ hmeanwhile
      · refine fun _ _ => hpost _ _ _ ?_
        rw [transferred?_mapError]
        exact conveyed

/-! ## Plain streams -/

/-- A plain stream tells the same count, or fails without having carried
anything. -/
theorem streamResult_of_tells {outcome : Except ChannelError IoStatus}
    {data : Bytes} (told : Tells (transferred? outcome) data) :
    streamResult outcome = .ok data.length ∨
      data = [] ∧ ∃ error, streamResult outcome = .error error := by
  cases hmoved : movedSomething outcome with
  | true =>
      obtain ⟨count, hcount, htransferred⟩ := movedSomething_eq_true.mp hmoved
      have hlength := (told count hcount).mp htransferred
      rcases outcome with error | told' | _ | _
      · cases htransferred
      · cases htransferred
        rw [hlength]
        exact .inl rfl
      · cases htransferred
      · cases htransferred
  | false =>
      have hdata := told.eq_nil hmoved
      subst hdata
      rcases outcome with error | count | _ | _
      · exact .inr ⟨rfl, _, rfl⟩
      · have hcount : count = 0 := by
          simpa [movedSomething, IoStatus.madeProgress] using hmoved
        rw [hcount]
        exact .inl rfl
      · exact .inr ⟨rfl, _, rfl⟩
      · exact .inl rfl

theorem isSound_zeros {window : Window} {length : Nat} (sound : window.IsSound)
    (hlength : length ≤ window.room) :
    Window.IsSound ⟨Bytes.zeros length, 0⟩ := by
  have hroom := sound.room_eq
  have hfits := sound.fits
  constructor
  · exact Nat.zero_le _
  · rw [Bytes.length_zeros]
    omega

theorem isSound_offered {window : Window} {bytes : Bytes}
    (sound : window.IsSound) (hbytes : bytes <+: window.remaining) :
    Window.IsSound ⟨bytes, 0⟩ := by
  have hlength := hbytes.length_le
  have hroom := sound.room_eq
  have hfits := sound.fits
  rw [window.length_remaining] at hlength
  constructor
  · exact Nat.zero_le _
  · show bytes.length < UInt64.size
    omega

theorem take_received {length : Nat} {window : Window} {data : Bytes}
    (sound : Window.IsSound ⟨Bytes.zeros length, 0⟩)
    (hdata : data.length ≤ length)
    (h : [window] = Window.passAll [⟨Bytes.zeros length, 0⟩] data) :
    window.buffer.take data.length = data := by
  have hroom : data.length ≤ Window.room ⟨Bytes.zeros length, 0⟩ := by
    rw [sound.room_eq, Bytes.length_zeros]
    exact hdata
  rw [Window.passAll, List.take_of_length_le hroom] at h
  cases h
  rw [Window.buffer_pass sound hroom]
  exact List.take_left' rfl

theorem received_delivers {length : Nat} {window : Window} {data : Bytes}
    {outcome : Except ChannelError IoStatus}
    (sound : Window.IsSound ⟨Bytes.zeros length, 0⟩)
    (conveyed : Conveyed .input [⟨Bytes.zeros length, 0⟩] [window]
      (transferred? outcome) data) :
    (Operation.receive length).Delivers
      (match streamResult outcome with
        | .ok count => .received count window.buffer
        | .error error => .broken error) (.only .input data) := by
  have hdata : data.length ≤ length := by
    have hfits := conveyed.passes.fits
    rwa [Window.roomAll_cons, sound.room_eq, Bytes.length_zeros] at hfits
  rintro direction windows ⟨rfl, offered, rfl, hlength⟩ soundAll
  have hfits : data.length ≤ Window.roomAll [offered] := by
    rw [Window.roomAll_cons]
    omega
  rw [Cargo.only_self]
  refine ⟨rfl, ?_⟩
  obtain hresult | ⟨rfl, error, hresult⟩ := streamResult_of_tells conveyed.told
  · rw [hresult]
    refine ⟨⟨hfits, ?_, fun h => by cases h⟩, tells_length data⟩
    show Window.passAll [offered] (window.buffer.take data.length) = _
    rw [take_received sound hdata conveyed.passes.passed]
  · rw [hresult]
    have hfailed : movedSomething (.error error : Except OsError IoStatus) =
        false := rfl
    exact conveyed_nothing soundAll hfailed

theorem sent_delivers {bytes : Bytes} {window : Window} {data : Bytes}
    {outcome : Except ChannelError IoStatus}
    (conveyed : Conveyed .output [⟨bytes, 0⟩] [window]
      (transferred? outcome) data) :
    (Operation.send bytes).Delivers
      (match streamResult outcome with
        | .ok count => .sent count
        | .error error => .broken error) (.only .output data) := by
  have hdata : data <+: bytes := by
    have hsent := conveyed.passes.sent rfl
    simpa [Window.remainingAll, Window.remaining, Window.start] using hsent
  rintro direction windows ⟨rfl, offered, rfl, hbytes⟩ soundAll
  have hremaining : data <+: Window.remainingAll [offered] := by
    rw [Window.remainingAll_cons]
    exact (hdata.trans hbytes).trans (List.prefix_append _ _)
  have hfits : data.length ≤ Window.roomAll [offered] := by
    rw [← Window.length_remainingAll]
    exact hremaining.length_le
  rw [Cargo.only_self]
  refine ⟨rfl, ?_⟩
  obtain hresult | ⟨rfl, error, hresult⟩ := streamResult_of_tells conveyed.told
  · rw [hresult]
    refine ⟨⟨hfits, ?_, fun _ => hremaining⟩, tells_length data⟩
    show Window.advanceAll [offered] data.length = _
    rw [Window.advanceAll_eq, ← List.prefix_iff_eq_take.mp hremaining]
  · rw [hresult]
    have hfailed : movedSomething (.error error : Except OsError IoStatus) =
        false := rfl
    exact conveyed_nothing soundAll hfailed

/-! ## All operations -/

theorem delivers_of_conveyed {operation : Operation} {reply : Reply}
    {direction : Direction} {windows : List Window} {data : Bytes}
    (hoffers : ∀ direction' windows', operation.Offers direction' windows' →
      direction' = direction ∧ windows' = windows)
    (conveyed : Conveyed direction windows
      (reply.windows windows) reply.transferred? data) :
    operation.Delivers reply (.only direction data) := by
  intro direction' windows' offers _
  obtain ⟨rfl, rfl⟩ := hoffers direction' windows' offers
  rw [Cargo.only_self]
  exact ⟨rfl, conveyed⟩

theorem obeyed (fd : Fd) : carrying.Obeyed fd := by
  rintro thread operation ⟨_, _, offers, sound⟩
  cases operation with
  | read window =>
      obtain ⟨rfl, rfl⟩ := offers
      simp only [Operation.program, meets_bind_eq]
      refine transferWith_meets sound rfl rfl rfl (socketRead_conveys sound) ?_
      intro outcome buffers data conveyed
      exact delivers_of_conveyed (fun _ _ offers => offers) conveyed
  | readMany windows =>
      obtain ⟨rfl, rfl⟩ := offers
      simp only [Operation.program, meets_bind_eq]
      refine transferWith_meets sound rfl rfl rfl
        (socketReadMany_conveys sound) ?_
      intro outcome buffers data conveyed
      exact delivers_of_conveyed (fun _ _ offers => offers) conveyed
  | write window =>
      obtain ⟨rfl, rfl⟩ := offers
      simp only [Operation.program, meets_bind_eq]
      refine transferWith_meets sound rfl rfl rfl (socketWrite_conveys sound) ?_
      intro outcome buffers data conveyed
      exact delivers_of_conveyed (fun _ _ offers => offers) conveyed
  | writeMany windows =>
      obtain ⟨rfl, rfl⟩ := offers
      simp only [Operation.program, meets_bind_eq]
      refine transferWith_meets sound rfl rfl rfl
        (socketWriteMany_conveys sound) ?_
      intro outcome buffers data conveyed
      exact delivers_of_conveyed (fun _ _ offers => offers) conveyed
  | receive length =>
      obtain ⟨rfl, window, rfl, hlength⟩ := offers
      have soundZeros :=
        isSound_zeros (List.forall_mem_singleton.mp sound) hlength
      have soundAll := List.forall_mem_singleton.mpr soundZeros
      simp only [Operation.program, Channel.receive, meets_bind_eq]
      refine transferWith_meets soundAll rfl rfl rfl
        (socketRead_conveys soundAll) ?_
      intro outcome window' data conveyed
      have hdelivers := received_delivers soundZeros conveyed
      simp only [meets_pure]
      cases hresult : streamResult outcome with
      | ok count =>
          rw [hresult] at hdelivers
          exact hdelivers
      | error error =>
          rw [hresult] at hdelivers
          exact hdelivers
  | send bytes =>
      obtain ⟨rfl, window, rfl, hbytes⟩ := offers
      have soundOffered :=
        isSound_offered (List.forall_mem_singleton.mp sound) hbytes
      have soundAll := List.forall_mem_singleton.mpr soundOffered
      simp only [Operation.program, Channel.send, meets_bind_eq]
      refine transferWith_meets soundAll rfl rfl rfl
        (socketWrite_conveys soundAll) ?_
      intro outcome window' data conveyed
      have hdelivers := sent_delivers conveyed
      simp only [meets_pure]
      cases hresult : streamResult outcome with
      | ok count =>
          rw [hresult] at hdelivers
          exact hdelivers
      | error error =>
          rw [hresult] at hdelivers
          exact hdelivers
  | _ => cases offers

end Carrying

end LocalSocket
