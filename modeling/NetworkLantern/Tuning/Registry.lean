import NetworkLantern.Tuning.Effects
import NetworkLantern.Tuning.RegFile

/-!
# Registry values

`registryExport` reads the values of some keys and writes them as text;
`restoreRegistry` writes the values of a parsed text back.

    registryExport_ok       the exported values are those of the machine
    restoreRegistry_ok      the values of a backup are set, all others stay

A value is written in one form only: a string ends with one NUL, a number has four
bytes (`encodeValue`).
-/

namespace NetworkLantern.Tuning

open NetworkLantern Act

/-! ## Keys and values -/

def systemProfileKey : Str := r"SOFTWARE\Microsoft\Windows NT\CurrentVersion\Multimedia\SystemProfile"

def audioTaskKey : Str :=
  r"SOFTWARE\Microsoft\Windows NT\CurrentVersion\Multimedia\SystemProfile\Tasks\Audio"

def afdParametersKey : Str := r"SYSTEM\CurrentControlSet\Services\AFD\Parameters"

def tcpipQosKey : Str := r"SYSTEM\CurrentControlSet\Services\Tcpip\QoS"

def systemProfileValues : RegistryGroups :=
  [(systemProfileKey, [("SystemResponsiveness", false), ("NetworkThrottlingIndex", false)]),
   (audioTaskKey, [("Priority", false), ("BackgroundOnly", false), ("Clock Rate", false),
      ("SchedulingCategory", true), ("SFIOPriority", true)])]

def afdValues : RegistryGroups := [(afdParametersKey, [("FastSendDatagramThreshold", false)])]

def doNotUseNla : Str := "Do not use NLA"

def tcpipQosValues : RegistryGroups := [(tcpipQosKey, [(doNotUseNla, true)])]

def regSz : Nat := 1
def regDword : Nat := 4

/-- A string as it is written: its code units and a NUL. -/
def encodeString (value : Str) : RegistryData := ⟨regSz, unitBytes (encodeUtf16 value ++ [0])⟩

def encodeDword (value : UInt32) : RegistryData :=
  ⟨regDword, (List.range 4).map fun i => (value.toNat / 256 ^ i % 256).toUInt8⟩

/-- The registry after a value has been written. -/
def encodeValue : RegistryValue → Option RegistryData
  | .missing => none
  | .dword value => some (encodeDword value)
  | .string value => some (encodeString value)

/-! ## Reading -/

def maxRegistryValueBytes : Nat := 64 * 1024

def readRegistryRaw (path name : Str) : Run (Option RegistryData) := do
  inspect (nativeFailure "open registry key") fun _ => .ok ()
  let size ← inspect (nativeFailure "query registry value") fun w =>
    .ok ((w.machine.registry path name).map fun data => data.bytes.length)
  match size with
  | none => return none
  | some size =>
    if maxRegistryValueBytes < size then
      Act.fail (.backupInvalid ("registry value ".toList ++ name ++ " exceeds 64 KiB".toList))
    else
      inspect (nativeFailure "read registry value") fun w => .ok (w.machine.registry path name)

/-- The text of a string value without its trailing NULs. -/
def decodeString (bytes : Bytes) : Str := (fromUtf16Lossy (unitsOf bytes)).rdropWhile (· == '\x00')

/-- A text that does not end in a NUL reads as it was written. -/
theorem decodeString_encodeString {value : Str} (h : ∀ c ∈ value.getLast?, c ≠ '\x00') :
    decodeString (encodeString value).bytes = value := by
  have hnul : encodeUtf16 value ++ [0] = encodeUtf16 (value ++ ['\x00']) := by
    rw [encodeUtf16_append]
    rfl
  unfold decodeString encodeString
  rw [unitsOf_unitBytes, hnul, fromUtf16Lossy_encodeUtf16, List.rdropWhile_concat_pos _ _ _ rfl,
    List.rdropWhile_eq_self_iff]
  intro hne hlast
  exact h _ (List.getLast_mem_getLast? hne) (beq_iff_eq.mp hlast)

/-- The number in the first four bytes. -/
def decodeDword (bytes : Bytes) : UInt32 :=
  ((bytes.take 4).foldr (fun (byte : UInt8) value => byte.toNat + 256 * value) 0).toUInt32

def decodeRegistry (name : Str) (string : Bool) (data : RegistryData) :
    Except TuningError RegistryValue :=
  if string && data.kind == regSz && data.bytes.length % 2 == 0 then
    .ok (.string (decodeString data.bytes))
  else if !string && data.kind == regDword && 4 ≤ data.bytes.length then
    .ok (.dword (decodeDword data.bytes))
  else invalid ("registry value ".toList ++ name ++ " has an unexpected type".toList)

def readRegistry (path name : Str) (string : Bool) : Run RegistryValue := do
  match ← readRegistryRaw path name with
  | none => return .missing
  | some data => Act.lift (decodeRegistry name string data)

def registryExport (groups : RegistryGroups) : Run Str := do
  let values ← Act.collect groups fun group => do
    let entries ← Act.collect group.2 fun value => do
      let read ← readRegistry group.1 value.1 value.2
      return (value.1, read)
    return (group.1, entries)
  return renderRegistryExport values

/-- Whether "Do not use NLA" is on; a failed read says nothing. -/
def inspectLocalQosEnabled : Run (Option Bool) := do
  match ← Act.attempt (readRegistryRaw tcpipQosKey doNotUseNla) with
  | .error _ => return none
  | .ok none => return none
  | .ok (some data) =>
    return (if data.kind = regSz ∧ data.bytes.length % 2 = 0 then
      some (decodeString data.bytes == ['1'])
    else if data.kind = regDword ∧ 4 ≤ data.bytes.length then some (decodeDword data.bytes == 1)
    else none)

/-! ## Writing -/

def setRegistry (operation path name : Str) (data : RegistryData) : Run Unit := do
  inspect (nativeFailure "open registry key") fun _ => .ok ()
  change (nativeFailure operation) fun w =>
    .ok ((w.setRegistry path name (some data)).record (.registry path name))

def setRegistryDword (path name : Str) (value : UInt32) : Run Unit :=
  setRegistry "set registry DWORD" path name (encodeDword value)

def setRegistryString (path name value : Str) : Run Unit :=
  setRegistry "set registry string" path name (encodeString value)

/-- A value that is absent stays absent. -/
def deleteRegistryValue (path name : Str) : Run Unit := do
  inspect (nativeFailure "open registry key") fun _ => .ok ()
  change (nativeFailure "delete registry value") fun w =>
    if (w.machine.registry path name).isNone then .ok w
    else .ok ((w.setRegistry path name none).record (.registry path name))

def restoreValue (key name : Str) : RegistryValue → Run Unit
  | .missing => deleteRegistryValue key name
  | .dword value => setRegistryDword key name value
  | .string value => setRegistryString key name value

def restoreRegistry (values : RegistryBackup) : Run Unit :=
  Act.forEach values.toList fun section_ =>
    match Str.stripPrefix hklm section_.1 with
    | none => Act.fail (.backupInvalid "registry key outside HKLM")
    | some key => Act.forEach section_.2.toList fun entry => restoreValue key entry.1 entry.2

/-! ## What is exported -/

/-- The value of a machine as `read_registry` returns it. -/
def registryValue (machine : Machine) (key name : Str) (string : Bool) :
    Except TuningError RegistryValue :=
  match machine.registry key name with
  | none => .ok .missing
  | some data =>
    if maxRegistryValueBytes < data.bytes.length then
      invalid ("registry value ".toList ++ name ++ " exceeds 64 KiB".toList)
    else decodeRegistry name string data

theorem readRegistryRaw_reads (path name : Str) : Keeps Reads (readRegistryRaw path name) := by
  refine Keeps.bind Reads.trans (inspect_reads _ _) fun _ => ?_
  refine Keeps.bind Reads.trans (inspect_reads _ _) fun size => ?_
  cases size with
  | none => exact Keeps.pure Reads.refl _
  | some size =>
    show Keeps Reads (if _ then _ else _)
    split
    · exact Keeps.fail Reads.refl _
    · exact inspect_reads _ _

theorem readRegistry_reads (path name : Str) (string : Bool) :
    Keeps Reads (readRegistry path name string) := by
  refine Keeps.bind Reads.trans (readRegistryRaw_reads path name) fun data => ?_
  cases data with
  | none => exact Keeps.pure Reads.refl _
  | some data => exact Keeps.lift Reads.refl _

theorem registryExport_reads (groups : RegistryGroups) : Keeps Reads (registryExport groups) := by
  refine Keeps.bind Reads.trans (Keeps.collect Reads.refl Reads.trans _ fun group _ => ?_)
    fun values => Keeps.pure Reads.refl _
  refine Keeps.bind Reads.trans (Keeps.collect Reads.refl Reads.trans _ fun value _ => ?_)
    fun entries => Keeps.pure Reads.refl _
  exact Keeps.bind Reads.trans (readRegistry_reads _ _ _) fun _ => Keeps.pure Reads.refl _

theorem inspectLocalQosEnabled_reads : Keeps Reads inspectLocalQosEnabled := by
  refine Keeps.bind Reads.trans (Keeps.attempt (readRegistryRaw_reads _ _)) fun data => ?_
  rcases data with e | data
  · exact Keeps.pure Reads.refl _
  · cases data <;> exact Keeps.pure Reads.refl _

theorem readRegistry_ok {path name : Str} {string : Bool} {w w' : World} {value : RegistryValue}
    (h : readRegistry path name string w = (.ok value, w')) :
    registryValue w.machine path name string = .ok value := by
  obtain ⟨data, w1, hraw, h⟩ := bind_ok.mp h
  obtain ⟨_, w2, hopen, hraw⟩ := bind_ok.mp hraw
  obtain ⟨-, rfl, -⟩ := inspect_ok.mp hopen
  obtain ⟨size, w3, hsize, hraw⟩ := bind_ok.mp hraw
  obtain ⟨-, rfl, hlength⟩ := inspect_ok.mp hsize
  have hlength : ((w.machine.registry path name).map fun data => data.bytes.length) = size :=
    Except.ok.inj hlength
  unfold registryValue
  cases hreg : w.machine.registry path name with
  | none =>
    rw [hreg] at hlength
    subst hlength
    cases hraw
    cases h
    rfl
  | some raw =>
    rw [hreg] at hlength
    subst hlength
    by_cases hlimit : maxRegistryValueBytes < raw.bytes.length
    · simp only [Option.map_some, if_pos hlimit] at hraw
      cases hraw
    · simp only [Option.map_some, if_neg hlimit] at hraw
      obtain ⟨-, -, hdata⟩ := inspect_ok.mp hraw
      have hdata : w.machine.registry path name = data := Except.ok.inj hdata
      rw [hreg] at hdata
      subst hdata
      simp only [if_neg hlimit]
      exact (lift_ok.mp h).1

/-- The values of some keys, with the value each name has on a machine. -/
def GroupValues (machine : Machine) (groups : RegistryGroups)
    (values : List (Str × List (Str × RegistryValue))) : Prop :=
  List.Forall₂ (fun group read => read.1 = group.1 ∧ List.Forall₂ (fun value entry =>
    entry.1 = value.1 ∧ registryValue machine group.1 value.1 value.2 = .ok entry.2)
      group.2 read.2) groups values

theorem registryExport_ok {groups : RegistryGroups} {w w' : World} {text : Str}
    (h : registryExport groups w = (.ok text, w')) :
    ∃ values, text = renderRegistryExport values ∧ GroupValues w.machine groups values := by
  obtain ⟨values, w1, hread, h⟩ := bind_ok.mp h
  cases h
  refine ⟨values, rfl, ?_⟩
  refine (collect_ok (I := fun s : World => s.machine = w.machine) ?_ rfl hread).2
  intro group _ s read s' hs hgroup
  obtain ⟨entries, s1, hentries, hgroup⟩ := bind_ok.mp hgroup
  cases hgroup
  have := collect_ok (I := fun s : World => s.machine = w.machine)
    (P := fun value entry => entry.1 = value.1 ∧
      registryValue w.machine group.1 value.1 value.2 = .ok entry.2) ?_ hs hentries
  · exact ⟨this.1, rfl, this.2⟩
  intro value _ s entry s' hs hvalue
  obtain ⟨read, s2, hread, hvalue⟩ := bind_ok.mp hvalue
  cases hvalue
  have hkeep := readRegistry_reads group.1 value.1 value.2 s
  rw [hread] at hkeep
  exact ⟨hkeep.machine.trans hs, rfl, hs ▸ readRegistry_ok hread⟩

/-! ## What is restored -/

section
variable {P : Mutation → Prop}

theorem setRegistry_effect {operation path name : Str} {data : RegistryData}
    (hP : P (.registry path name)) :
    Keeps (Effect [.registry] P) (setRegistry operation path name data) := by
  refine Effect.bind (Reads.keeps (inspect_reads _ _)) fun _ => ?_
  refine change_keeps Effect.advance fun w w' h => ?_
  cases h
  exact ⟨rfl, fun h => absurd List.mem_cons_self h, fun _ => rfl, fun _ => rfl, fun _ => rfl,
    fun _ => rfl, fun _ => rfl, [.registry path name], rfl, by simpa using hP⟩

theorem restoreValue_effect {key name : Str} (value : RegistryValue) (hP : P (.registry key name)) :
    Keeps (Effect [.registry] P) (restoreValue key name value) := by
  cases value with
  | missing =>
    refine Effect.bind (Reads.keeps (inspect_reads _ _)) fun _ => ?_
    refine change_keeps Effect.advance fun w w' h => ?_
    split at h
    · cases h
      exact Effect.advance w
    · cases h
      exact ⟨rfl, fun h => absurd List.mem_cons_self h, fun _ => rfl, fun _ => rfl, fun _ => rfl,
        fun _ => rfl, fun _ => rfl, [.registry key name], rfl, by simpa using hP⟩
  | dword value => exact setRegistry_effect hP
  | string value => exact setRegistry_effect hP

theorem restoreRegistry_effect (values : RegistryBackup)
    (hP : ∀ key name, P (.registry key name)) :
    Keeps (Effect [.registry] P) (restoreRegistry values) := by
  refine Effect.forEach _ fun section_ _ => ?_
  cases Str.stripPrefix hklm section_.1 with
  | none => exact Effect.fail _
  | some key => exact Effect.forEach _ fun entry _ => restoreValue_effect _ (hP _ _)

end

/-- The values of `P` have been written, all others are as before. -/
structure Settles (P : Str → Str → RegistryValue → Prop)
    (before after : Str → Str → Option RegistryData) : Prop where
  written : ∀ key name value, P key name value → after key name = encodeValue value
  kept : ∀ key name, (∀ value, ¬ P key name value) → after key name = before key name

theorem Settles.trans {P Q : Str → Str → RegistryValue → Prop}
    {a b c : Str → Str → Option RegistryData} (hab : Settles P a b) (hbc : Settles Q b c)
    (hsame : ∀ key name v v', P key name v → Q key name v' → v = v') :
    Settles (fun key name value => P key name value ∨ Q key name value) a c where
  written key name value h := by
    rcases h with h | h
    · by_cases hq : ∃ v', Q key name v'
      · obtain ⟨v', hq⟩ := hq
        rw [hbc.written key name v' hq, hsame key name value v' h hq]
      · rw [hbc.kept key name fun v hv => hq ⟨v, hv⟩, hab.written key name value h]
    · exact hbc.written key name value h
  kept key name h := by
    rw [hbc.kept key name fun v hv => h v (Or.inr hv), hab.kept key name fun v hv => h v (Or.inl hv)]

theorem Settles.congr {P Q : Str → Str → RegistryValue → Prop}
    {a b : Str → Str → Option RegistryData} (h : Settles P a b)
    (hiff : ∀ key name value, P key name value ↔ Q key name value) : Settles Q a b where
  written key name value hq := h.written key name value ((hiff key name value).mpr hq)
  kept key name hq := h.kept key name fun v hv => hq v ((hiff key name v).mp hv)

theorem Settles.refl {P : Str → Str → RegistryValue → Prop}
    (h : ∀ key name value, ¬ P key name value) (a : Str → Str → Option RegistryData) :
    Settles P a a :=
  ⟨fun key name value hp => absurd hp (h key name value), fun _ _ _ => rfl⟩

theorem setRegistry_ok {operation path name : Str} {data : RegistryData} {w w' : World}
    (h : setRegistry operation path name data w = (.ok (), w')) :
    w'.machine.registry = (w.setRegistry path name (some data)).machine.registry := by
  obtain ⟨_, w1, hopen, h⟩ := bind_ok.mp h
  obtain ⟨-, rfl, -⟩ := inspect_ok.mp hopen
  obtain ⟨-, hset⟩ := change_ok.mp h
  cases hset
  rfl

theorem settles_set (w : World) (path name : Str) (value : RegistryValue) :
    Settles (fun k n v => k = path ∧ n = name ∧ v = value) w.machine.registry
      (w.setRegistry path name (encodeValue value)).machine.registry where
  written key n v h := by
    obtain ⟨rfl, rfl, rfl⟩ := h
    exact if_pos ⟨rfl, rfl⟩
  kept key n h := by
    refine if_neg ?_
    rintro ⟨rfl, rfl⟩
    exact h value ⟨rfl, rfl, rfl⟩

theorem restoreValue_ok {key name : Str} {value : RegistryValue} {w w' : World}
    (h : restoreValue key name value w = (.ok (), w')) :
    Settles (fun k n v => k = key ∧ n = name ∧ v = value) w.machine.registry w'.machine.registry := by
  have hset := settles_set w key name value
  cases value with
  | dword value => rw [setRegistry_ok h]; exact hset
  | string value => rw [setRegistry_ok h]; exact hset
  | missing =>
    obtain ⟨_, w1, hopen, h⟩ := bind_ok.mp h
    obtain ⟨-, rfl, -⟩ := inspect_ok.mp hopen
    obtain ⟨-, hdelete⟩ := change_ok.mp h
    split at hdelete
    · next hnone =>
      -- the value was absent already
      cases hdelete
      rw [Option.isNone_iff_eq_none] at hnone
      refine ⟨fun k n v hv => ?_, fun _ _ _ => rfl⟩
      obtain ⟨rfl, rfl, rfl⟩ := hv
      exact hnone
    · cases hdelete
      exact hset

theorem restoreEntries_ok {key : Str} {entries : List (Str × RegistryValue)} {w w' : World}
    (hsame : ∀ n v v', (n, v) ∈ entries → (n, v') ∈ entries → v = v')
    (h : Act.forEach entries (fun entry => restoreValue key entry.1 entry.2) w = (.ok (), w')) :
    Settles (fun k n v => k = key ∧ (n, v) ∈ entries) w.machine.registry w'.machine.registry := by
  induction entries generalizing w with
  | nil => cases h; exact Settles.refl (by simp) _
  | cons entry entries ih =>
    obtain ⟨_, w1, h1, h⟩ := bind_ok.mp (forEach_cons entry entries _ ▸ h)
    have hrest := ih (fun n v v' hv hv' =>
      hsame n v v' (List.mem_cons_of_mem _ hv) (List.mem_cons_of_mem _ hv')) h
    refine ((restoreValue_ok h1).trans hrest ?_).congr fun k n v => ?_
    · rintro k n v v' ⟨rfl, rfl, rfl⟩ ⟨-, hv'⟩
      exact hsame _ _ _ List.mem_cons_self (List.mem_cons_of_mem _ hv')
    · rw [List.mem_cons, ← and_or_left, Prod.ext_iff]

/-- A restored backup: its values are set, all others stay. -/
theorem restoreRegistry_ok {backup : RegistryBackup} {w w' : World}
    (h : restoreRegistry backup w = (.ok (), w')) :
    Settles (fun k n v => backup.Has (hklm ++ k) n v) w.machine.registry w'.machine.registry := by
  have hsections : ∀ (l : List (Str × StrMap RegistryValue)) (w : World),
      (∀ s ∈ l, ∀ s' ∈ l, s.1 = s'.1 → s = s') →
      Act.forEach l (fun section_ =>
        match Str.stripPrefix hklm section_.1 with
        | none => Act.fail (.backupInvalid "registry key outside HKLM")
        | some key => Act.forEach section_.2.toList fun entry => restoreValue key entry.1 entry.2) w =
        (.ok (), w') →
      Settles (fun k n v => ∃ s ∈ l, s.1 = hklm ++ k ∧ (n, v) ∈ s.2.toList) w.machine.registry
        w'.machine.registry := by
    intro l
    induction l with
    | nil =>
      intro w _ h
      cases h
      exact Settles.refl (by simp) _
    | cons s l ih =>
      intro w hsame h
      obtain ⟨_, w1, h1, h⟩ := bind_ok.mp (forEach_cons s l _ ▸ h)
      have hrest := ih w1 (fun a ha b hb =>
        hsame a (List.mem_cons_of_mem _ ha) b (List.mem_cons_of_mem _ hb)) h
      cases hkey : Str.stripPrefix hklm s.1 with
      | none => rw [hkey] at h1; cases h1
      | some key =>
        rw [hkey] at h1
        have hs := Str.stripPrefix_eq_some hkey
        have hentries : ∀ n v v', (n, v) ∈ s.2.toList → (n, v') ∈ s.2.toList → v = v' := by
          intro n v v' hv hv'
          rw [Std.TreeMap.mem_toList_iff_getElem?_eq_some] at hv hv'
          exact Option.some.inj (hv.symm.trans hv')
        refine ((restoreEntries_ok hentries h1).trans hrest ?_).congr fun k n v => ?_
        · rintro k n v v' ⟨rfl, hv⟩ ⟨s', hs', hk', hv'⟩
          have he : s = s' := hsame s List.mem_cons_self s' (List.mem_cons_of_mem _ hs')
            (hs.trans hk'.symm)
          exact hentries n v v' hv (he ▸ hv')
        · rw [List.exists_mem_cons_iff]
          refine or_congr_left (and_congr_left fun _ => ?_)
          rw [hs]
          exact ⟨fun hk => by rw [hk], fun hk => (List.append_cancel_left hk).symm⟩
  have hdistinct : ∀ s ∈ backup.toList, ∀ s' ∈ backup.toList, s.1 = s'.1 → s = s' := by
    rintro ⟨k, es⟩ hs ⟨k', es'⟩ hs' hk
    obtain rfl : k = k' := hk
    rw [Std.TreeMap.mem_toList_iff_getElem?_eq_some] at hs hs'
    rw [Option.some.inj (hs.symm.trans hs')]
  refine (hsections backup.toList w hdistinct h).congr fun k n v => ?_
  unfold RegistryBackup.Has
  constructor
  · rintro ⟨⟨s, es⟩, hs, hk, hv⟩
    obtain rfl : s = hklm ++ k := hk
    exact ⟨es, Std.TreeMap.mem_toList_iff_getElem?_eq_some.mp hs,
      Std.TreeMap.mem_toList_iff_getElem?_eq_some.mp hv⟩
  · rintro ⟨es, hs, hv⟩
    exact ⟨(hklm ++ k, es), Std.TreeMap.mem_toList_iff_getElem?_eq_some.mpr hs, rfl,
      Std.TreeMap.mem_toList_iff_getElem?_eq_some.mpr hv⟩

end NetworkLantern.Tuning
