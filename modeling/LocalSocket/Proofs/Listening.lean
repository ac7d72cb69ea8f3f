import LocalSocket.Kernel.Session
import LocalSocket.Proofs.Comparing
import LocalSocket.Proofs.Conversation
import LocalSocket.Proofs.ReportedRecords

/-!
# Addresses that may be listened at

Listening leaves it to others to make a record of an address.  If these look at
the length of a path only, a NUL byte is part of a path like any other.  That
channels refuse such a path is made up for on the way: a path with a NUL byte in
it is no file that a socket could be looked for at, and no folder that could be
created.

It is not made up for if stale sockets are kept and the NUL byte is in the last
component.  What is bound then is the record of the whole path, which the system
reads as far as the NUL byte.
-/

namespace LocalSocket

namespace Path

/-! ## The bytes of a folder -/

variable {path part : Bytes} {byte : UInt8}

theorem mem_of_mem_parts (hpart : part ∈ parts path) (h : byte ∈ part) :
    byte ∈ path := by
  induction path generalizing part with
  | nil =>
      obtain rfl := List.mem_singleton.mp hpart
      exact h
  | cons head path ih =>
      obtain ⟨first, rest, hpath, hparts⟩ := parts_cons head path
      rw [hpath] at ih
      rw [hparts] at hpart
      split at hpart
      · obtain rfl | hpart := List.mem_cons.mp hpart
        · cases h
        · exact List.mem_cons_of_mem _ (ih hpart h)
      · obtain rfl | hpart := List.mem_cons.mp hpart
        · obtain rfl | h := List.mem_cons.mp h
          · exact List.mem_cons_self
          · exact List.mem_cons_of_mem _ (ih List.mem_cons_self h)
        · exact List.mem_cons_of_mem _ (ih (List.mem_cons_of_mem _ hpart) h)

theorem mem_of_mem_join {paths : List Bytes} (hne : byte ≠ slash)
    (h : byte ∈ [slash].intercalate paths) : ∃ path ∈ paths, byte ∈ path := by
  rw [List.intercalate] at h
  induction paths with
  | nil => cases h
  | cons path rest ih =>
      cases rest with
      | nil => exact ⟨path, by simp, by simpa using h⟩
      | cons next rest =>
          rw [List.intersperse_cons_cons, List.flatten_cons, List.flatten_cons,
            List.mem_append, List.mem_append] at h
          obtain h | h | h := h
          · exact ⟨path, by simp, h⟩
          · exact absurd (List.mem_singleton.mp h) hne
          · obtain ⟨path', hmem, h⟩ := ih h
            exact ⟨path', List.mem_cons_of_mem _ hmem, h⟩

theorem eq_of_component? {bytes : Bytes}
    (h : component? part = some (.name bytes)) : part = bytes := by
  rw [component?_eq, componentOf] at h
  split at h
  · split at h
    · cases h
    · cases h
      rfl
  · cases h

theorem mem_parts_of_mem_components {bytes : Bytes}
    (h : .name bytes ∈ components path) : bytes ∈ parts path := by
  rw [components] at h
  split at h
  · cases h
  rename_i first rest hparts
  rw [hparts]
  obtain h | h := List.mem_append.mp h
  · split at h
    · cases List.mem_singleton.mp h
    split at h
    · cases List.mem_singleton.mp h
    · exact eq_of_component? (Option.mem_toList.mp h) ▸ List.mem_cons_self
  · obtain ⟨part, hpart, hname⟩ := List.mem_filterMap.mp h
    exact List.mem_cons_of_mem _ (eq_of_component? hname ▸ hpart)

theorem zero_mem_of_mem_component {component : Component}
    (hcomponent : component ∈ components path)
    (h : 0 ∈ ofComponent component) : 0 ∈ path := by
  cases component with
  | root => cases h
  | current | parent => simp [ofComponent, dot, dotDot] at h
  | name bytes =>
      exact mem_of_mem_parts (mem_parts_of_mem_components hcomponent) h

/-- A folder has no NUL byte unless the path has. -/
theorem zero_mem_of_mem_parent {folder : Bytes}
    (hfolder : parent? path = some folder) (h : 0 ∈ folder) : 0 ∈ path := by
  rw [parent?] at hfolder
  split at hfolder
  · cases hfolder
  · cases hfolder
  · cases hfolder
    unfold ofComponents at h
    split at h
    · cases List.mem_singleton.mp h
    · obtain ⟨bytes, hbytes, h⟩ := mem_of_mem_join (by decide) h
      obtain ⟨component, hmem, rfl⟩ := List.mem_map.mp hbytes
      have hmem := (List.dropLast_sublist _).subset hmem
      exact zero_mem_of_mem_component hmem h

end Path

namespace Record

/-- A record that holds the bytes of a file's path is read up to the first NUL
byte, wherever that is. -/
theorem path_toAddress_of_prefix {record : Record} {path : Bytes}
    (hhead : path.head? ≠ some 0) (nul : 0 ∈ path) (h : path <+: record.used) :
    record.toAddress.path = path.takeWhile (· ≠ 0) := by
  obtain ⟨rest, hused⟩ := h
  have hstart : record.used.head? ≠ some 0 := by
    rw [← hused]
    cases path with
    | nil => cases nul
    | cons byte bytes => exact hhead
  rw [path_toAddress_of_file hstart, ← hused, List.takeWhile_append]
  split
  · rename_i hlength
    have hmem : 0 ∈ path.takeWhile (· ≠ 0) :=
      ((List.takeWhile_prefix _).eq_of_length hlength).symm ▸ nul
    simpa using List.mem_takeWhile_imp hmem
  · rfl

end Record

namespace Listener

/-- Nothing is refused but what is too long: a path with a NUL byte in front if
it has more than 108 bytes, and any other if it has 108 or more.  Further NUL
bytes make no difference. -/
structure Encoding.LimitsLength (encode : Encoding) : Prop where
  abstract_iff : ∀ path, path.head? = some 0 →
    ((∃ record, encode path = .ok record) ↔ path.length ≤ 108)
  file_iff : ∀ path, path.head? ≠ some 0 →
    ((∃ record, encode path = .ok record) ↔ path.length < 108)

variable {encode : Encoding} {address : Address} {settings : Settings}
  {record : Record} {fd : Fd} {exchanges : List Exchange}

theorem onFile_of_mem {α : Type} {path : Bytes} (h : 0 ∈ path)
    (program : Program (Except OsError α)) :
    onFile path program = pure (.error nulInName) := by
  rw [onFile, if_pos (by simpa using h)]

theorem onFile_of_not_mem {α : Type} {path : Bytes} (h : 0 ∉ path)
    (program : Program (Except OsError α)) : onFile path program = program := by
  rw [onFile, if_neg (by simpa using h)]

/-! ## Records -/

theorem isFile_iff : address.isFile = true ↔
    address.path ≠ [] ∧ address.path.head? ≠ some 0 := by
  rw [Address.isFile, Address.isUnnamed, Address.abstractName?]
  split
  · rename_i hpath
    simp [hpath]
  · rename_i hpath
    have hhead : address.path.head? ≠ some 0 := by
      intro h
      obtain ⟨name, hname⟩ := List.head?_eq_some_iff.mp h
      exact hpath name hname
    simp [hhead]

namespace Encoding.LimitsLength

variable {path : Bytes}

theorem takes_of_fits (limits : encode.LimitsLength) (fits : Record.Fits path) :
    ∃ record, encode path = .ok record := by
  by_cases hhead : path.head? = some 0
  · refine (limits.abstract_iff path hhead).mpr ?_
    obtain rfl | ⟨-, hlength⟩ | ⟨nul, -⟩ := fits
    · cases hhead
    · exact hlength
    · exact absurd (List.mem_of_mem_head? hhead) nul
  · refine (limits.file_iff path hhead).mpr ?_
    obtain rfl | ⟨hzero, -⟩ | ⟨-, hlength⟩ := fits
    · decide
    · exact absurd hzero hhead
    · omega

/-- What there is a record of to listen at, but not for channels, is a file's
path with a NUL byte in it. -/
theorem nul_of_not_fits (limits : encode.LimitsLength)
    (hrecord : encode path = .ok record) (h : ¬Record.Fits path) :
    Address.isFile ⟨path⟩ = true ∧ path.length ≤ 107 ∧ 0 ∈ path := by
  have hne : path ≠ [] := fun hempty => h (.inl hempty)
  by_cases hhead : path.head? = some 0
  · have hlength := (limits.abstract_iff path hhead).mp ⟨_, hrecord⟩
    exact absurd (.inr (.inl ⟨hhead, hlength⟩)) h
  · have hlength := (limits.file_iff path hhead).mp ⟨_, hrecord⟩
    refine ⟨isFile_iff.mpr ⟨hne, hhead⟩, by omega, ?_⟩
    by_contra nul
    exact h (.inr (.inr ⟨nul, by omega⟩))

end Encoding.LimitsLength

/-! ## What is refused -/

theorem cleanup_of_nul (file : address.isFile = true)
    (h : 0 ∈ address.path) :
    cleanup address = throw (.stat nulInName) := by
  rw [cleanup, if_pos file, cleanupFile, isSocketFile, onFile_of_mem h]
  rfl

theorem prepare_of_nul (file : address.isFile = true)
    (removes : settings.keepStale = false) (h : 0 ∈ address.path) :
    prepare address settings = throw (.cleanup (.stat nulInName)) := by
  rw [prepare, if_pos file, removes, cleanup_of_nul file h]
  rfl

theorem prepare_of_nul_in_folder {folder : Bytes} (file : address.isFile = true)
    (keeps : settings.keepStale = true)
    (hfolder : Path.parent? address.path = some folder) (h : 0 ∈ folder) :
    prepare address settings = throw (.makeParents nulInName) := by
  rw [prepare, if_pos file, keeps, hfolder]
  simp only [makeFolders, onFile_of_mem h]
  rfl

theorem listen_of_prepare {error : ListenError}
    (hrecord : encode address.path = .ok record)
    (h : prepare address settings = throw error) :
    (listen encode address settings).run =
      Program.call (.socket .stream) >>= fun
      | .error failure => pure (.error (.createSocket failure))
      | .ok fd =>
          Program.call (.close fd) >>= fun _ => pure (.error error) := by
  rw [listen, hrecord]
  simp only [start, h]
  refine congrArg (Program.act (.call (.socket .stream)))
    (funext fun answer => ?_)
  cases answer <;> rfl

/-! ## What is bound -/

section Going

variable {α β ε ε' : Type} {value : α}

theorem converses_then {program : ExceptT ε Program α}
    {f : α → ExceptT ε Program β} {first rest : List Exchange}
    {result : Except ε β} (h : program.run.Converses first (.ok value))
    (h' : (f value).run.Converses rest result) :
    (program >>= f).run.Converses (first ++ rest) result :=
  h.append h'

theorem converses_adapt {program : ExceptT ε Program α} (f : ε → ε')
    (h : program.run.Converses exchanges (.ok value)) :
    (ExceptT.adapt f program).run.Converses exchanges (.ok value) := by
  have hdone : (Program.done (Except.mapError f (.ok value))).Converses []
    (.ok value) := .done _
  rw [← List.append_nil exchanges]
  exact h.append hdone

theorem converses_tryCatch {program : ExceptT ε Program α}
    (handle : ε → ExceptT ε Program α)
    (h : program.run.Converses exchanges (.ok value)) :
    (tryCatch program handle).run.Converses exchanges (.ok value) := by
  have hdone : (Program.done (.ok value : Except ε α)).Converses []
    (.ok value) := .done _
  rw [← List.append_nil exchanges]
  exact h.append hdone

/-- The system does what it is asked for. -/
theorem converses_done (request : Call) (value : request.Value)
    (f : OsError → ε) :
    (ExceptT.adapt f (ExceptT.mk (Program.call request))).run.Converses
      [⟨request, .ok value⟩] (.ok value) :=
  converses_adapt f (.call (.ok value) (.done _))

end Going

theorem converses_cleanup (h : 0 ∉ address.path) :
    ∃ exchanges, (cleanup address).run.Converses exchanges (.ok ()) := by
  rw [cleanup]
  split
  · rw [cleanupFile, isSocketFile, onFile_of_not_mem h]
    exact ⟨_, @Program.Converses.call _ (.isSocketFile address.path) _ [] _
      (.ok false) (.done _)⟩
  · exact ⟨[], .done _⟩

/-- What comes after the cleanup also happens where stale files are kept. -/
theorem converses_after_cleanup {next : ExceptT ListenError Program Unit}
    (hpath : settings.keepStale = true ∨ 0 ∉ address.path)
    (hnext : ∃ exchanges, next.run.Converses exchanges (.ok ())) :
    ∃ exchanges, (do
      unless settings.keepStale do
        ExceptT.adapt ListenError.cleanup (cleanup address)
      next).run.Converses exchanges (.ok ()) := by
  obtain ⟨rest, hrest⟩ := hnext
  cases hkeeps : settings.keepStale with
  | true => exact ⟨rest, hrest⟩
  | false =>
      obtain ⟨first, hfirst⟩ :=
        converses_cleanup (hpath.resolve_left (by simp [hkeeps]))
      exact ⟨first ++ rest, converses_then (converses_adapt _ hfirst) hrest⟩

theorem converses_prepare
    (hpath : settings.keepStale = true ∨ 0 ∉ address.path)
    (hfolder : ∀ folder, Path.parent? address.path = some folder →
      0 ∉ folder) :
    ∃ exchanges,
      (prepare address settings).run.Converses exchanges (.ok ()) := by
  rw [prepare]
  split
  · refine converses_after_cleanup hpath ?_
    cases hparent : Path.parent? address.path with
    | none => exact ⟨[], .done _⟩
    | some folder =>
        simp only [makeFolders, onFile_of_not_mem (hfolder folder hparent)]
        exact ⟨_, converses_done (.makeFolders folder) () _⟩
  · exact ⟨[], .done _⟩

/-- The system can be asked to bind the record, and listening then succeeds. -/
def Binds (encode : Encoding) (address : Address) (settings : Settings)
    (record : Record) : Prop :=
  ∀ fd, ∃ exchanges,
    (listen encode address settings).run.Converses exchanges (.ok fd) ∧
    ⟨.bind fd record, .ok ()⟩ ∈ exchanges

theorem binds_of_prepare (hrecord : encode address.path = .ok record)
    (h : (prepare address settings).run.Converses exchanges (.ok ())) :
    Binds encode address settings record := by
  intro fd
  let backlog := settings.backlog.getD Settings.defaultBacklog
  have opened := converses_done (.socket .stream) fd ListenError.createSocket
  have bound := converses_done (.bind fd record) () ListenError.bind
  have listened := converses_done (.listen fd backlog) () ListenError.listen
  have started : (start fd record address settings).run.Converses
      (exchanges ++ ([⟨.bind fd record, .ok ()⟩] ++
        [⟨.listen fd backlog, .ok ()⟩])) (.ok ()) :=
    converses_then h (converses_then bound listened)
  have ended : (listen encode address settings).run.Converses
      ([⟨.socket .stream, .ok fd⟩] ++ ((exchanges ++
        ([⟨.bind fd record, .ok ()⟩] ++ [⟨.listen fd backlog, .ok ()⟩])) ++
          [])) (.ok fd) := by
    rw [listen, hrecord]
    exact converses_then opened
      (converses_then (converses_tryCatch _ started) (.done _))
  exact ⟨_, ended, by simp⟩

/-! ## What listening makes of an address -/

/-- There is a NUL byte in a file's path that nothing looks at before the path
is bound. -/
structure HidesNul (address : Address) (settings : Settings) : Prop where
  file : address.isFile = true
  keeps : settings.keepStale = true
  nul : 0 ∈ address.path
  fits : address.path.length ≤ 107
  folder : ∀ folder, Path.parent? address.path = some folder → 0 ∉ folder

/-- What listening at an address that is refused ends with. -/
def refusal (encode : Encoding) (address : Address) (settings : Settings) :
    ListenError :=
  match encode address.path with
  | .error error => .invalidPath error
  | .ok _ =>
      if settings.keepStale then .makeParents nulInName
      else .cleanup (.stat nulInName)

/-- An address is refused by its encoding, before anything is done, or else
after no more than a socket has been opened, which is then released. -/
inductive Refuses (encoded : Except OsError Record) (error : ListenError) :
    List Exchange → Except ListenError Fd → Prop where
  | outright {fault : OsError} (rejected : encoded = .error fault) :
      Refuses encoded error [] (.error error)
  | unopened {record : Record} (accepted : encoded = .ok record)
      (failure : OsError) :
      Refuses encoded error [⟨.socket .stream, .error failure⟩]
        (.error (.createSocket failure))
  | released {record : Record} (accepted : encoded = .ok record) (fd : Fd)
      (closed : Except OsError Unit) :
      Refuses encoded error [⟨.socket .stream, .ok fd⟩, ⟨.close fd, closed⟩]
        (.error error)

theorem not_fits_of_error {fault : PathFault}
    (h : Record.ofAddress address = .error fault) :
    ¬Record.Fits address.path := by
  obtain ⟨_, record, hrecord, _⟩ | ⟨hnot, _⟩ :=
    Record.ofAddress_cases address.path
  · cases h.symm.trans hrecord
  · exact hnot

theorem prepare_of_refused {fault : PathFault} (limits : encode.LimitsLength)
    (hfault : Record.ofAddress address = .error fault)
    (shown : ¬HidesNul address settings)
    (hrecord : encode address.path = .ok record) :
    prepare address settings = throw (refusal encode address settings) := by
  obtain ⟨file, fits, nul⟩ :=
    limits.nul_of_not_fits hrecord (not_fits_of_error hfault)
  rw [refusal, hrecord]
  cases hkeeps : settings.keepStale with
  | false => exact prepare_of_nul file hkeeps nul
  | true =>
      obtain ⟨folder, hfolder, hmem⟩ : ∃ folder,
          Path.parent? address.path = some folder ∧ 0 ∈ folder := by
        by_contra hfolder
        refine shown ⟨file, hkeeps, nul, fits, fun folder h hmem => ?_⟩
        exact hfolder ⟨folder, h, hmem⟩
      exact prepare_of_nul_in_folder file hkeeps hfolder hmem

theorem refuses_iff {fault : PathFault} (limits : encode.LimitsLength)
    (hfault : Record.ofAddress address = .error fault)
    (shown : ¬HidesNul address settings) {result : Except ListenError Fd} :
    (listen encode address settings).run.Converses exchanges result ↔
      Refuses (encode address.path) (refusal encode address settings) exchanges
        result := by
  cases hrecord : encode address.path with
  | error fault =>
      have hlisten : (listen encode address settings).run =
          pure (.error (refusal encode address settings)) := by
        rw [listen, refusal, hrecord]
        rfl
      rw [hlisten, Program.converses_pure]
      constructor
      · rintro ⟨rfl, rfl⟩
        exact .outright rfl
      · rintro (_ | ⟨accepted⟩ | ⟨accepted⟩)
        · exact ⟨rfl, rfl⟩
        · cases accepted
        · cases accepted
  | ok record =>
      rw [listen_of_prepare hrecord
          (prepare_of_refused limits hfault shown hrecord),
        Program.converses_call_bind]
      constructor
      · rintro ⟨failure | fd, rest, rfl, h⟩
        · obtain ⟨rfl, rfl⟩ := Program.converses_pure.mp h
          exact .unopened rfl failure
        · obtain ⟨closed, rest, rfl, hrest⟩ :=
            Program.converses_call_bind.mp h
          obtain ⟨rfl, rfl⟩ := Program.converses_pure.mp hrest
          exact .released rfl fd closed
      · rintro (⟨rejected⟩ | ⟨_, failure⟩ | ⟨_, fd, closed⟩)
        · cases rejected
        · exact ⟨.error failure, [], rfl, .done _⟩
        · refine ⟨.ok fd, _, rfl, ?_⟩
          exact Program.converses_call_bind.mpr ⟨closed, [], rfl, .done _⟩

/-- The record that is bound is that of the whole path.  If it holds the bytes
of the path, the system reads it as a path that has been cut off. -/
theorem HidesNul.binds (hidden : HidesNul address settings)
    (limits : encode.LimitsLength) :
    Record.ofAddress address = .error .containsNul ∧
      ∃ record : Record, encode address.path = .ok record ∧
        Binds encode address settings record ∧
        (address.path <+: record.used →
          record.toAddress.path = address.path.takeWhile (· ≠ 0) ∧
          record.toAddress ≠ address) := by
  obtain ⟨hne, hhead⟩ := isFile_iff.mp hidden.file
  obtain ⟨record, hrecord⟩ := (limits.file_iff address.path hhead).mpr
    (Nat.lt_succ_of_le hidden.fits)
  obtain ⟨exchanges, h⟩ := converses_prepare (.inl hidden.keeps)
    hidden.folder
  refine ⟨by simp [Record.ofAddress_file hne hhead, hidden.nul], record,
    hrecord, binds_of_prepare hrecord h, fun holds => ?_⟩
  have hpath := Record.path_toAddress_of_prefix hhead hidden.nul holds
  refine ⟨hpath, fun hsame => ?_⟩
  have nul := hidden.nul
  rw [← hsame, hpath] at nul
  simpa using List.mem_takeWhile_imp nul

theorem binds_of_ofAddress (limits : encode.LimitsLength)
    (h : Record.ofAddress address = .ok record) :
    ∃ record', encode address.path = .ok record' ∧
      Binds encode address settings record' := by
  have fits : Record.Fits address.path := by
    obtain ⟨fits, _⟩ | ⟨_, fault, hfault⟩ :=
      Record.ofAddress_cases address.path
    · exact fits
    · cases h.symm.trans hfault
  obtain ⟨record', hrecord⟩ := limits.takes_of_fits fits
  refine ⟨record', hrecord, ?_⟩
  cases file : address.isFile with
  | false =>
      have hprepare : (prepare address settings).run.Converses [] (.ok ()) := by
        rw [prepare, file]
        exact .done _
      exact binds_of_prepare hrecord hprepare
  | true =>
      obtain ⟨hne, hhead⟩ := isFile_iff.mp file
      have nul : 0 ∉ address.path := by
        obtain hempty | ⟨hzero, -⟩ | ⟨nul, -⟩ := fits
        · exact absurd hempty hne
        · exact absurd hzero hhead
        · exact nul
      obtain ⟨exchanges, hprepare⟩ := converses_prepare (.inr nul)
        fun folder hfolder hmem =>
          nul (Path.zero_mem_of_mem_parent hfolder hmem)
      exact binds_of_prepare hrecord hprepare

/-- An address that channels refuse is refused for listening, too, and nothing
is bound, unless it hides a NUL byte.  Any other address can be listened at, by
the record that there is of its path. -/
structure TakenAlike (encode : Encoding) (address : Address)
    (settings : Settings) : Prop where
  refused : ∀ fault, Record.ofAddress address = .error fault →
    ¬HidesNul address settings → ∀ exchanges result,
      (listen encode address settings).run.Converses exchanges result ↔
        Refuses (encode address.path) (refusal encode address settings)
          exchanges result
  cut : HidesNul address settings →
    Record.ofAddress address = .error .containsNul ∧
      ∃ record : Record, encode address.path = .ok record ∧
        Binds encode address settings record ∧
        (address.path <+: record.used →
          record.toAddress.path = address.path.takeWhile (· ≠ 0) ∧
          record.toAddress ≠ address)
  taken : ∀ record, Record.ofAddress address = .ok record →
    ∃ record', encode address.path = .ok record' ∧
      Binds encode address settings record'

/-- Channels and listening take the same addresses, but for those that hide a
NUL byte, if making a record to listen at is refused for no more than length. -/
theorem addresses_taken_alike (limits : encode.LimitsLength)
    (address : Address) (settings : Settings) :
    TakenAlike encode address settings where
  refused _ hfault shown _ _ := refuses_iff limits hfault shown
  cut hidden := hidden.binds limits
  taken _ h := binds_of_ofAddress limits h

theorem limitsLength_encodePath : Encoding.LimitsLength Kernel.encodePath where
  abstract_iff path hhead := by
    obtain ⟨name, rfl⟩ := List.head?_eq_some_iff.mp hhead
    rw [Kernel.encodePath, Record.pathSize, List.length_cons]
    split
    · simp
      omega
    · simp
      omega
  file_iff path hhead := by
    rw [Kernel.encodePath.eq_def, Record.pathSize]
    split
    · simp
    · exact absurd rfl hhead
    · split
      · simp
        omega
      · simp
        omega

/-- The path "a", a NUL byte and "b", listened at without looking for a stale
socket. -/
def nulInside : Address := ⟨[0x61, 0, 0x62]⟩

theorem hidesNul_nulInside : HidesNul nulInside { keepStale := true } := by
  refine ⟨rfl, rfl, by decide, by decide, fun folder hfolder => ?_⟩
  obtain rfl : [] = folder := Option.some.inj hfolder
  exact List.not_mem_nil

theorem bound_cut_off : Encoding.LimitsLength Kernel.encodePath ∧
    Record.ofAddress nulInside = .error .containsNul ∧
    ∃ record, Binds Kernel.encodePath nulInside { keepStale := true } record ∧
      record.toAddress = ⟨[0x61]⟩ := by
  obtain ⟨hfault, record, hrecord, binds, read⟩ :=
    (addresses_taken_alike limitsLength_encodePath nulInside
      { keepStale := true }).cut hidesNul_nulInside
  cases hrecord
  refine ⟨limitsLength_encodePath, hfault, _, binds, ?_⟩
  exact congrArg Address.mk (read (by decide)).1

/-- What channels refuse may be bound all the same. -/
theorem path_bound_to_nul : ¬∀ (encode : Encoding), encode.LimitsLength →
    ∀ (address : Address) (settings : Settings) (fault : PathFault),
      Record.ofAddress address = .error fault → ∀ exchanges result,
        (listen encode address settings).run.Converses exchanges result →
        ∀ fd record answer, ⟨.bind fd record, answer⟩ ∉ exchanges := by
  intro h
  obtain ⟨hfault, record, -, binds, -⟩ :=
    hidesNul_nulInside.binds limitsLength_encodePath
  obtain ⟨exchanges, converses, bound⟩ := binds 3
  exact h _ limitsLength_encodePath _ _ _ hfault exchanges _ converses 3 record
    _ bound

end Listener

end LocalSocket
