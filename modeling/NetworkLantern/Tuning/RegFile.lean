import NetworkLantern.Lib.Checks
import NetworkLantern.Lib.Digits
import NetworkLantern.Lib.Lines
import NetworkLantern.Lib.Utf16
import NetworkLantern.Tuning.Types
import Std.Data.TreeMap.Lemmas

/-!
# The registry artifacts

`renderRegistryExport` writes the values of some keys as a `.reg` text;
`parseRegistrySections` reads such a text and accepts only the keys and values it
expects.  The lines that the writer makes of some keys leave their values in what
is read (`regLines_groups`).
-/

namespace NetworkLantern.Tuning

open NetworkLantern

inductive RegistryValue
  | missing
  | dword (value : UInt32)
  | string (value : Str)
deriving DecidableEq, Repr

/-- A `BTreeMap` with text keys. -/
abbrev StrMap (α : Type) := Std.TreeMap Str α compare

abbrev RegistryBackup := StrMap (StrMap RegistryValue)

/-- The value names of each key, with whether the value is a string. -/
abbrev RegistryGroups := List (Str × List (Str × Bool))

def hklm : Str := "HKEY_LOCAL_MACHINE\\"

/-! ## Writing -/

/-- `replace` of one character. -/
def replaceChar (c : Char) (by_ : Str) (s : Str) : Str := s.flatMap fun d => if d = c then by_ else [d]

def escapeReg (value : Str) : Str := replaceChar '"' "\\\"" (replaceChar '\\' "\\\\" value)

def renderValue : RegistryValue → Str
  | .missing => "-"
  | .dword value => "dword:".toList ++ hexFixed 8 value.toNat
  | .string value => '"' :: escapeReg value ++ ['"']

theorem renderValue_dword (value : UInt32) :
    renderValue (.dword value) = "dword:".toList ++ hexFixed 8 value.toNat := rfl

theorem renderValue_string (value : Str) :
    renderValue (.string value) = '"' :: escapeReg value ++ ['"'] := rfl

def entryLine (entry : Str × RegistryValue) : Str :=
  '"' :: entry.1 ++ '"' :: '=' :: renderValue entry.2

def sectionLine (key : Str) : Str := '[' :: (hklm ++ key) ++ [']']

def renderGroup (group : Str × List (Str × RegistryValue)) : Str :=
  "\r\n".toList ++ sectionLine group.1 ++ "\r\n".toList ++
    group.2.flatMap fun entry => entryLine entry ++ "\r\n".toList

def regHeader : Str := "Windows Registry Editor Version 5.00"

def renderRegistryExport (groups : List (Str × List (Str × RegistryValue))) : Str :=
  regHeader ++ "\r\n".toList ++ groups.flatMap renderGroup

/-! ## Reading -/

def decodeReg (bytes : Bytes) : Except TuningError Str :=
  if [0xff, 0xfe] <+: bytes then
    let body := bytes.drop 2
    if body.length % 2 ≠ 0 then invalid "registry backup has malformed UTF-16"
    else match fromUtf16 (unitsOf body) with
      | some text => .ok text
      | none => invalid "registry backup has invalid UTF-16"
  else
    let body := if [0xef, 0xbb, 0xbf] <+: bytes then bytes.drop 3 else bytes
    match Str.fromUtf8 body with
    | some text => .ok text
    | none => invalid "registry backup is not text"

/-- The characters between the quotes of a string value. -/
def unescapeReg : Str → Except TuningError Str
  | [] => .ok []
  | '\\' :: '\\' :: chars => (unescapeReg chars).map ('\\' :: ·)
  | '\\' :: '"' :: chars => (unescapeReg chars).map ('"' :: ·)
  | '\\' :: _ => invalid "registry string has an unsupported escape"
  | c :: chars =>
    if c = '\x00' ∨ c = '\r' ∨ c = '\n' then invalid "registry string contains a control character"
    else (unescapeReg chars).map (c :: ·)

def parseRegString (data : Str) : Except TuningError Str :=
  match (Str.stripPrefix ['"'] data).bind (Str.stripLast '"') with
  | none => invalid "invalid registry string"
  | some inner => unescapeReg inner

def isAsciiHexDigit (c : Char) : Bool := (hexValue c).isSome

def parseRegValue (stringType : Bool) (data : Str) : Except TuningError RegistryValue :=
  if data = "-".toList then .ok .missing
  else if stringType then (parseRegString data).map .string
  else match (Str.stripPrefix "dword:" data).filter fun v => v.byteLen == 8 && v.all isAsciiHexDigit with
    | none => invalid "invalid registry DWORD"
    | some hex =>
      match parseHex hex with
      | some value => .ok (.dword value.toUInt32)
      | none => invalid "invalid registry DWORD"

structure RegState where
  result : RegistryBackup
  current : Option Str
  header : Bool

/-- A line `"name"=data` under a key. -/
def regEntry (expected : RegistryGroups) (st : RegState) (key line : Str) :
    Except TuningError RegState :=
  match Str.splitOnce '=' line with
  | none => invalid "malformed registry value"
  | some (quotedName, data) =>
    match (Str.stripPrefix ['"'] quotedName).bind (Str.stripLast '"') with
    | none => invalid "malformed registry value name"
    | some name =>
      match (expected.lookup key).bind fun values => values.lookup name with
      | none => invalid "unapproved registry value"
      | some stringType => do
        let value ← parseRegValue stringType data
        let entries := (st.result[key]?).getD ∅
        refuse (entries.contains name) (.backupInvalid "duplicate registry value")
        return { st with result := st.result.insert key (entries.insert name value) }

def regLine (expected : RegistryGroups) (st : RegState) (raw : Str) : Except TuningError RegState :=
  let line := (Str.trim raw).dropWhile (· == '\ufeff')
  if line.isEmpty then .ok st
  else if !st.header then
    if line ≠ regHeader then invalid "registry backup has an invalid header"
    else .ok { st with header := true }
  else
    match (Str.stripPrefix ['['] line).bind (Str.stripLast ']') with
    | some key =>
      if (expected.lookup key).isNone || st.result.contains key then
        invalid "registry backup contains an unknown or duplicate key"
      else .ok { st with result := st.result.insert key ∅, current := some key }
    | none =>
      match st.current with
      | none => invalid "registry value appears before a key"
      | some key => regEntry expected st key line

def regLines (expected : RegistryGroups) (st : RegState) : List Str → Except TuningError RegState
  | [] => .ok st
  | raw :: rest => do
    let st ← regLine expected st raw
    regLines expected st rest

/-- Every expected value of a key is there, and no other. -/
def completeSection (result : RegistryBackup) (group : Str × List (Str × Bool)) : Bool :=
  match result[group.1]? with
  | none => false
  | some entries => entries.size == group.2.length && group.2.all fun value => entries.contains value.1

def parseRegistrySections (bytes : Bytes) (expected : RegistryGroups) :
    Except TuningError RegistryBackup := do
  let text ← decodeReg bytes
  let st ← regLines expected ⟨∅, none, false⟩ text.lines
  refuse (!st.header || st.result.size != expected.length)
    (.backupInvalid "registry backup is missing a required key")
  refuse (!expected.all (completeSection st.result))
    (.backupInvalid "registry backup is missing required value state")
  return st.result

def systemProfileSections : RegistryGroups :=
  [("HKEY_LOCAL_MACHINE\\SOFTWARE\\Microsoft\\Windows NT\\CurrentVersion\\Multimedia\\SystemProfile",
    [("SystemResponsiveness", false), ("NetworkThrottlingIndex", false)]),
   ("HKEY_LOCAL_MACHINE\\SOFTWARE\\Microsoft\\Windows NT\\CurrentVersion\\Multimedia\\SystemProfile\\Tasks\\Audio",
    [("Priority", false), ("BackgroundOnly", false), ("Clock Rate", false),
      ("SchedulingCategory", true), ("SFIOPriority", true)])]

def afdSections : RegistryGroups :=
  [("HKEY_LOCAL_MACHINE\\SYSTEM\\CurrentControlSet\\Services\\AFD\\Parameters",
    [("FastSendDatagramThreshold", false)])]

def tcpipQosSections : RegistryGroups :=
  [("HKEY_LOCAL_MACHINE\\SYSTEM\\CurrentControlSet\\Services\\Tcpip\\QoS", [("Do not use NLA", true)])]

def parseRegistryBackup (bytes : Bytes) (systemProfile : Bool) : Except TuningError RegistryBackup :=
  parseRegistrySections bytes (if systemProfile then systemProfileSections else afdSections)

def parseTcpipQosBackup (bytes : Bytes) : Except TuningError RegistryBackup :=
  parseRegistrySections bytes tcpipQosSections

/-! ## Reading what was written -/

theorem escapeReg_backslash (s : Str) : escapeReg ('\\' :: s) = '\\' :: '\\' :: escapeReg s := rfl

theorem escapeReg_quote (s : Str) : escapeReg ('"' :: s) = '\\' :: '"' :: escapeReg s := rfl

theorem escapeReg_plain {c : Char} (h1 : c ≠ '\\') (h2 : c ≠ '"') (s : Str) :
    escapeReg (c :: s) = c :: escapeReg s := by
  unfold escapeReg replaceChar
  rw [List.flatMap_cons, if_neg h1, List.singleton_append, List.flatMap_cons, if_neg h2]
  rfl

theorem escapeReg_append (s t : Str) : escapeReg (s ++ t) = escapeReg s ++ escapeReg t := by
  unfold escapeReg replaceChar
  rw [List.flatMap_append, List.flatMap_append]

/-- A line feed is not escaped. -/
theorem newline_mem_escapeReg {s : Str} (h : '\n' ∈ escapeReg s) : '\n' ∈ s := by
  induction s with
  | nil => exact h
  | cons c s ih =>
    by_cases h1 : c = '\\'
    · subst h1
      rw [escapeReg_backslash] at h
      exact List.mem_cons_of_mem _ (ih (by simpa using h))
    · by_cases h2 : c = '"'
      · subst h2
        rw [escapeReg_quote] at h
        exact List.mem_cons_of_mem _ (ih (by simpa using h))
      · rw [escapeReg_plain h1 h2] at h
        rcases List.mem_cons.mp h with rfl | h
        · exact List.mem_cons_self
        · exact List.mem_cons_of_mem c (ih h)

theorem except_mapped_ok {α β ε : Type} {f : α → β} {x : Except ε α} {b : β} (h : x.map f = .ok b) :
    ∃ a, x = .ok a ∧ f a = b := by
  cases x with
  | error e => cases h
  | ok a => cases h; exact ⟨a, rfl, rfl⟩

theorem unescapeReg_plain {c : Char} (h : c ≠ '\\') (s : Str) :
    unescapeReg (c :: s) = if c = '\x00' ∨ c = '\r' ∨ c = '\n' then
      invalid "registry string contains a control character"
      else (unescapeReg s).map (c :: ·) := by
  rw [unescapeReg.eq_def]
  split
  · next he => cases he
  · next he => cases he; exact absurd rfl h
  · next he => cases he; exact absurd rfl h
  · next he => cases he; exact absurd rfl h
  · next he => cases he; rfl

/-- An escaped string unescapes to itself, if it is accepted. -/
theorem unescapeReg_escapeReg {s t : Str} (h : unescapeReg (escapeReg s) = .ok t) : t = s := by
  induction s generalizing t with
  | nil => cases h; rfl
  | cons c s ih =>
    by_cases h1 : c = '\\'
    · subst h1
      rw [escapeReg_backslash, unescapeReg] at h
      obtain ⟨u, hu, rfl⟩ := except_mapped_ok h
      rw [ih hu]
    · by_cases h2 : c = '"'
      · subst h2
        rw [escapeReg_quote, unescapeReg] at h
        obtain ⟨u, hu, rfl⟩ := except_mapped_ok h
        rw [ih hu]
      · rw [escapeReg_plain h1 h2, unescapeReg_plain h1] at h
        split at h
        · cases h
        · obtain ⟨u, hu, rfl⟩ := except_mapped_ok h
          rw [ih hu]

/-- An escaped string that is cut at one of its quotes does not unescape. -/
theorem unescapeReg_cut {s cut t : Str} (h : cut ++ ['"'] <+: escapeReg s) :
    unescapeReg cut ≠ .ok t := by
  induction s generalizing cut t with
  | nil => exact absurd (List.prefix_nil.mp h) (by simp)
  | cons c s ih =>
    by_cases h1 : c = '\\'
    · subst h1
      rw [escapeReg_backslash] at h
      match cut, h with
      | [], h => exact absurd (List.cons_prefix_cons.mp h).1 (by decide)
      | [d], h =>
        exact absurd (List.cons_prefix_cons.mp (List.cons_prefix_cons.mp h).2).1 (by decide)
      | d :: e :: cut, h =>
        obtain ⟨rfl, hrest⟩ := List.cons_prefix_cons.mp h
        obtain ⟨rfl, hcut⟩ := List.cons_prefix_cons.mp hrest
        intro hok
        obtain ⟨u, hu, -⟩ := except_mapped_ok hok
        exact ih hcut hu
    · by_cases h2 : c = '"'
      · subst h2
        rw [escapeReg_quote] at h
        match cut, h with
        | [], h => exact absurd (List.cons_prefix_cons.mp h).1 (by decide)
        | [d], h =>
          -- the cut keeps the backslash of an escaped quote
          obtain ⟨rfl, -⟩ := List.cons_prefix_cons.mp h
          intro hok
          cases hok
        | d :: e :: cut, h =>
          obtain ⟨rfl, hrest⟩ := List.cons_prefix_cons.mp h
          obtain ⟨rfl, hcut⟩ := List.cons_prefix_cons.mp hrest
          intro hok
          obtain ⟨u, hu, -⟩ := except_mapped_ok hok
          exact ih hcut hu
      · rw [escapeReg_plain h1 h2] at h
        match cut, h with
        | [], h => exact absurd (List.cons_prefix_cons.mp h).1 (Ne.symm h2)
        | d :: cut, h =>
          obtain ⟨rfl, hcut⟩ := List.cons_prefix_cons.mp h
          intro hok
          rw [unescapeReg_plain h1] at hok
          split at hok
          · cases hok
          · obtain ⟨u, hu, -⟩ := except_mapped_ok hok
            exact ih hcut hu

/-- The type of a value, as the key's list has it. -/
def RegistryValue.fits (stringType : Bool) : RegistryValue → Prop
  | .missing => True
  | .dword _ => stringType = false
  | .string _ => stringType = true

theorem parseHex_render (value : UInt32) : parseHex (hexFixed 8 value.toNat) = some value.toNat :=
  parseHex_hexFixed (lt_of_lt_of_le value.toNat_lt (by decide))

theorem hexFixed_accepted (value : UInt32) :
    ((hexFixed 8 value.toNat).byteLen == 8 &&
      (hexFixed 8 value.toNat).all isAsciiHexDigit) = true := by
  have hdigit : ∀ c ∈ hexFixed 8 value.toNat, isAsciiHexDigit c = true ∧ c.utf8Size = 1 := by
    intro c hc
    obtain ⟨d, hd, rfl⟩ := hexValue_of_mem_hexFixed hc
    unfold isAsciiHexDigit
    rw [hexValue_digitChar hd]
    refine ⟨rfl, ?_⟩
    interval_cases d <;> rfl
  have hlen : ∀ s : Str, (∀ c ∈ s, c.utf8Size = 1) → s.byteLen = s.length := by
    intro s hs
    induction s with
    | nil => rfl
    | cons c s ih =>
      rw [Str.byteLen_cons, hs c List.mem_cons_self,
        ih fun d hd => hs d (List.mem_cons_of_mem c hd), List.length_cons]
      omega
  rw [Bool.and_eq_true, beq_iff_eq, hlen _ fun c hc => (hdigit c hc).2, length_hexFixed,
    List.all_eq_true]
  exact ⟨rfl, fun c hc => (hdigit c hc).1⟩

theorem parseRegValue_dword (value : UInt32) :
    parseRegValue false (renderValue (.dword value)) = .ok (.dword value) := by
  have hne : ¬ renderValue (.dword value) = "-".toList := fun he =>
    absurd (List.cons.inj he).1 (by decide)
  rw [parseRegValue, if_neg hne, if_neg Bool.false_ne_true, renderValue_dword,
    Str.stripPrefix_append, Option.filter_some, if_pos (hexFixed_accepted value)]
  dsimp only
  rw [parseHex_render]
  simp

theorem parseRegValue_string (s : Str) :
    parseRegValue true (renderValue (.string s)) = (unescapeReg (escapeReg s)).map .string := by
  have hne : ¬ renderValue (.string s) = "-".toList := fun he =>
    absurd (List.cons.inj he).1 (by decide)
  rw [parseRegValue, if_neg hne, if_pos rfl]
  congr 1
  show (match (Str.stripPrefix ['"'] (['"'] ++ (escapeReg s ++ ['"']))).bind (Str.stripLast '"') with
    | none => _ | some inner => _) = _
  rw [Str.stripPrefix_append, Option.bind_some, Str.stripLast_append]

/-- A written value reads as itself, if it is accepted. -/
theorem parseRegValue_renderValue {stringType : Bool} {value value' : RegistryValue}
    (hfits : value.fits stringType) (h : parseRegValue stringType (renderValue value) = .ok value') :
    value' = value := by
  cases value with
  | missing =>
    cases h
    rfl
  | dword value =>
    have hst : stringType = false := hfits
    subst hst
    rw [parseRegValue_dword] at h
    exact (Except.ok.inj h).symm
  | string value =>
    have hst : stringType = true := hfits
    subst hst
    rw [parseRegValue_string] at h
    obtain ⟨t, ht, rfl⟩ := except_mapped_ok h
    rw [unescapeReg_escapeReg ht]

/-- The start of the line of a value. -/
def entryStart (name : Str) : Str := '"' :: name ++ ['"', '=']

/-- A name without a line feed and without an equals sign. -/
def PlainName (name : Str) : Prop := '\n' ∉ name ∧ '=' ∉ name

theorem entryLine_eq (entry : Str × RegistryValue) :
    entryLine entry = entryStart entry.1 ++ renderValue entry.2 := by
  simp [entryLine, entryStart]

theorem rdropWhile_append {α : Type} {p : α → Bool} {s : List α} (hs : ∃ c ∈ s.getLast?, p c = false)
    (t : List α) : (s ++ t).rdropWhile p = s ++ t.rdropWhile p := by
  obtain ⟨c, hc, hp⟩ := hs
  have hrev : s.reverse.dropWhile p = s.reverse := by
    cases hr : s.reverse with
    | nil => rfl
    | cons d l =>
      have hd : d = c := by
        rw [← List.head?_reverse, hr] at hc
        exact Option.some.inj hc
      rw [List.dropWhile_cons_of_neg (by rw [hd, hp]; exact Bool.false_ne_true)]
  have hne : s.reverse.isEmpty = false := by
    cases s with
    | nil => cases hc
    | cons a l => simp
  unfold List.rdropWhile
  rw [List.reverse_append, List.dropWhile_append]
  split
  · next hempty =>
    have hempty := List.isEmpty_iff.mp hempty
    rw [hempty, hrev, List.reverse_reverse]
    simp
  · rw [List.reverse_append, List.reverse_reverse]

/-- What the start of a value's line becomes of a trimmed line. -/
theorem trim_entryStart (name tail : Str) :
    (Str.trim (entryStart name ++ tail)).dropWhile (· == '\ufeff') =
      entryStart name ++ tail.rdropWhile Str.isWhitespace := by
  have hlast : ∃ c ∈ (entryStart name).getLast?, Str.isWhitespace c = false :=
    ⟨'=', by rw [show entryStart name = ('"' :: name ++ ['"']) ++ ['='] by simp [entryStart],
      List.getLast?_concat]; rfl, by decide⟩
  have hdrop : (entryStart name ++ tail).dropWhile Str.isWhitespace = entryStart name ++ tail := by
    show ('"' :: ((name ++ ['"', '=']) ++ tail)).dropWhile Str.isWhitespace = _
    rw [List.dropWhile_cons_of_neg (by decide)]
    rfl
  unfold Str.trim Str.trimMatches
  rw [hdrop, rdropWhile_append hlast]
  show ('"' :: ((name ++ ['"', '=']) ++ _)).dropWhile _ = _
  rw [List.dropWhile_cons_of_neg (by decide)]
  rfl

/-- A line of a value is split into its name and its data. -/
theorem regLine_entryStart {expected : RegistryGroups} {st : RegState} {key name tail : Str}
    {stringType : Bool} (hheader : st.header = true) (hcurrent : st.current = some key)
    (hplain : PlainName name)
    (htype : ((expected.lookup key).bind fun values => values.lookup name) = some stringType) :
    regLine expected st (entryStart name ++ tail) = (do
      let value ← parseRegValue stringType (tail.rdropWhile Str.isWhitespace)
      refuse (((st.result[key]?).getD ∅).contains name) (.backupInvalid "duplicate registry value")
      return { st with
        result := st.result.insert key (((st.result[key]?).getD ∅).insert name value) }) := by
  unfold regLine
  rw [trim_entryStart]
  have hsplit : Str.splitOnce '=' (entryStart name ++ tail.rdropWhile Str.isWhitespace) =
      some ('"' :: name ++ ['"'], tail.rdropWhile Str.isWhitespace) := by
    have heq : '=' ∉ '"' :: name ++ ['"'] := by
      simp only [List.cons_append, List.mem_cons, List.mem_append, List.not_mem_nil, or_false, not_or]
      exact ⟨by decide, hplain.2, by decide⟩
    have := Str.splitOnce_append heq (tail.rdropWhile Str.isWhitespace)
    rw [← this]
    simp [entryStart]
  have hname : (Str.stripPrefix ['"'] ('"' :: name ++ ['"'])).bind (Str.stripLast '"') = some name := by
    have := Str.stripPrefix_append ['"'] (name ++ ['"'])
    rw [List.singleton_append] at this
    rw [List.cons_append, this, Option.bind_some, Str.stripLast_append]
  have hopen : Str.stripPrefix ['['] (entryStart name ++ tail.rdropWhile Str.isWhitespace) = none := by
    unfold Str.stripPrefix
    rw [if_neg]
    intro hp
    exact absurd (List.cons_prefix_cons.mp hp).1 (by decide)
  have hne : (entryStart name ++ tail.rdropWhile Str.isWhitespace).isEmpty = false := rfl
  obtain ⟨result, current, header⟩ := st
  cases hheader
  cases hcurrent
  simp only [hne, hopen, Option.bind_none, Bool.not_true, Bool.false_eq_true, if_false]
  unfold regEntry
  simp only [hsplit, hname, htype]

/-- A backup has a value for a name of a key. -/
def RegistryBackup.Has (backup : RegistryBackup) (key name : Str) (value : RegistryValue) : Prop :=
  ∃ entries, backup[key]? = some entries ∧ entries[name]? = some value

theorem RegistryBackup.has_insert_section {backup : RegistryBackup} {key : Str}
    (h : backup.contains key = false) (k n : Str) (v : RegistryValue) :
    RegistryBackup.Has (backup.insert key ∅) k n v ↔ backup.Has k n v := by
  have hnone : backup[key]? = none := Std.TreeMap.getElem?_eq_none_of_contains_eq_false h
  unfold RegistryBackup.Has
  rw [Std.TreeMap.getElem?_insert]
  split
  · next he =>
    have he := Std.LawfulEqOrd.compare_eq_iff_eq.mp he
    subst he
    simp [hnone]
  · exact Iff.rfl

theorem RegistryBackup.has_insert_entry {backup : RegistryBackup} {key name : Str}
    {value : RegistryValue} (h : ((backup[key]?).getD ∅).contains name = false) (k n : Str)
    (v : RegistryValue) :
    RegistryBackup.Has (backup.insert key (((backup[key]?).getD ∅).insert name value)) k n v ↔
      backup.Has k n v ∨ k = key ∧ n = name ∧ v = value := by
  have hnone : ((backup[key]?).getD ∅)[name]? = none :=
    Std.TreeMap.getElem?_eq_none_of_contains_eq_false h
  unfold RegistryBackup.Has
  rw [Std.TreeMap.getElem?_insert]
  split
  · next he =>
    have he := Std.LawfulEqOrd.compare_eq_iff_eq.mp he
    subst he
    have hold : (∃ entries, backup[key]? = some entries ∧ entries[n]? = some v) ↔
        ((backup[key]?).getD ∅)[n]? = some v := by
      cases backup[key]? with
      | none => simp
      | some entries => simp
    rw [hold]
    simp only [Option.some.injEq, exists_eq_left', true_and]
    rw [Std.TreeMap.getElem?_insert]
    split
    · next hn =>
      have hn := Std.LawfulEqOrd.compare_eq_iff_eq.mp hn
      subst hn
      rw [hnone]
      simp [eq_comm]
    · next hn =>
      have hn : n ≠ name := fun he => hn (Std.LawfulEqOrd.compare_eq_iff_eq.mpr he.symm)
      simp [hn]
  · next hk =>
    have hk : k ≠ key := fun he => hk (Std.LawfulEqOrd.compare_eq_iff_eq.mpr he.symm)
    simp [hk]

/-- A line of a value whose string has a line feed is refused. -/
theorem regLine_cut {expected : RegistryGroups} {st st' : RegState} {key name raw s : Str}
    (hheader : st.header = true) (hcurrent : st.current = some key) (hplain : PlainName name)
    (htype : ((expected.lookup key).bind fun values => values.lookup name) = some true)
    (hraw : raw <+: escapeReg s) :
    regLine expected st (entryStart name ++ '"' :: raw) ≠ .ok st' := by
  rw [regLine_entryStart hheader hcurrent hplain htype]
  intro h
  obtain ⟨value, hvalue, -⟩ := except_bind_ok.mp h
  have hdata : ('"' :: raw).rdropWhile Str.isWhitespace = '"' :: raw.rdropWhile Str.isWhitespace :=
    rdropWhile_append (s := ['"']) ⟨'"', rfl, by decide⟩ raw
  have hne : ¬ '"' :: raw.rdropWhile Str.isWhitespace = "-".toList := fun he =>
    absurd (List.cons.inj he).1 (by decide)
  rw [hdata, parseRegValue, if_neg hne, if_pos rfl] at hvalue
  obtain ⟨t, ht, -⟩ := except_mapped_ok hvalue
  change (match (Str.stripPrefix ['"'] (['"'] ++ raw.rdropWhile Str.isWhitespace)).bind
    (Str.stripLast '"') with | none => _ | some inner => _) = _ at ht
  rw [Str.stripPrefix_append, Option.bind_some] at ht
  cases hcut : Str.stripLast '"' (raw.rdropWhile Str.isWhitespace) with
  | none => rw [hcut] at ht; cases ht
  | some cut =>
    rw [hcut] at ht
    have hprefix : cut ++ ['"'] <+: escapeReg s := by
      rw [← Str.stripLast_eq_some hcut]
      exact ( List.rdropWhile_prefix Str.isWhitespace raw).trans hraw
    exact unescapeReg_cut hprefix ht

/-- The entry of a value that a key expects, of the expected type. -/
def Expected (expected : RegistryGroups) (key : Str) (entry : Str × RegistryValue) : Prop :=
  ∃ stringType, ((expected.lookup key).bind fun values => values.lookup entry.1) = some stringType ∧
    entry.2.fits stringType

theorem newline_mem_renderValue {value : RegistryValue} (h : '\n' ∈ renderValue value) :
    ∃ s, value = .string s ∧ '\n' ∈ s := by
  cases value with
  | missing => exact absurd h (by decide)
  | dword value =>
    rw [renderValue_dword] at h
    rcases List.mem_append.mp h with h | h
    · exact absurd h (by decide)
    · obtain ⟨d, hd, he⟩ := hexValue_of_mem_hexFixed h
      interval_cases d <;> exact absurd he (by decide)
  | string s =>
    refine ⟨s, rfl, newline_mem_escapeReg ?_⟩
    rw [renderValue_string] at h
    simpa using h

theorem newline_not_mem_entryStart {name : Str} (h : PlainName name) : '\n' ∉ entryStart name := by
  simp [entryStart, h.1]

theorem rdropWhile_renderValue (value : RegistryValue) :
    (renderValue value).rdropWhile Str.isWhitespace = renderValue value := by
  have hlast : ∀ s : Str, (∃ c ∈ s.getLast?, Str.isWhitespace c = false) →
      s.rdropWhile Str.isWhitespace = s := by
    intro s hs
    have := rdropWhile_append hs []
    simpa using this
  apply hlast
  cases value with
  | missing => exact ⟨'-', rfl, by decide⟩
  | dword value =>
    refine ⟨Nat.digitChar (value.toNat % 16), ?_, ?_⟩
    · rw [renderValue_dword]
      show (_ ++ (hexFixed 7 (value.toNat / 16) ++ [Nat.digitChar (value.toNat % 16)])).getLast? = _
      rw [← List.append_assoc, List.getLast?_concat]
    · have hd : value.toNat % 16 < 16 := Nat.mod_lt _ (by decide)
      generalize value.toNat % 16 = d at hd
      interval_cases d <;> decide
  | string s =>
    refine ⟨'"', ?_, by decide⟩
    rw [renderValue_string, List.getLast?_concat]
    rfl

/-- A value with a line feed is refused: its first line ends inside the string. -/
theorem regLines_newline {expected : RegistryGroups} {st final : RegState} {key name rest : Str}
    {value : RegistryValue} {stringType : Bool} (hheader : st.header = true)
    (hcurrent : st.current = some key) (hplain : PlainName name)
    (htype : ((expected.lookup key).bind fun values => values.lookup name) = some stringType)
    (hfits : value.fits stringType) (hnewline : '\n' ∈ renderValue value) :
    regLines expected st (Str.lines (entryLine (name, value) ++ '\r' :: '\n' :: rest)) ≠
      .ok final := by
  intro h
  obtain ⟨s, rfl, hs⟩ := newline_mem_renderValue hnewline
  obtain ⟨before, after, rfl, hbefore⟩ := List.eq_append_cons_of_mem hs
  have hst : stringType = true := hfits
  subst hst
  have hesc : '\n' ∉ escapeReg before := fun hm => hbefore (newline_mem_escapeReg hm)
  have htext : entryLine (name, .string (before ++ '\n' :: after)) ++ '\r' :: '\n' :: rest =
      (entryStart name ++ '"' :: escapeReg before) ++
        '\n' :: (escapeReg after ++ '"' :: '\r' :: '\n' :: rest) := by
    rw [entryLine_eq, renderValue_string, escapeReg_append, escapeReg_plain (by decide) (by decide)]
    simp
  have hline : '\n' ∉ entryStart name ++ '"' :: escapeReg before := by
    simp [newline_not_mem_entryStart hplain, hesc]
  rw [htext, Str.lines_newline hline] at h
  obtain ⟨st', hst', -⟩ := except_bind_ok.mp h
  obtain ⟨raw, hraw, hstrip⟩ : ∃ raw, raw <+: escapeReg before ∧
      Str.stripReturn (entryStart name ++ '"' :: escapeReg before) = entryStart name ++ '"' :: raw := by
    unfold Str.stripReturn
    split
    · next hr =>
      cases hb : escapeReg before with
      | nil => rw [hb] at hr; simp at hr
      | cons c l =>
        refine ⟨(c :: l).dropLast, List.dropLast_prefix _, ?_⟩
        rw [List.dropLast_append_of_ne_nil (by simp)]
        rfl
    · exact ⟨_, List.prefix_refl _, rfl⟩
  rw [hstrip] at hst'
  refine regLine_cut (s := before ++ '\n' :: after) hheader hcurrent hplain htype ?_ hst'
  rw [escapeReg_append]
  exact hraw.trans (List.prefix_append _ _)

/-- A value without a line feed has a line of its own. -/
theorem regLines_entryLine {expected : RegistryGroups} {st : RegState} {key name rest : Str}
    {value : RegistryValue} {stringType : Bool} (hheader : st.header = true)
    (hcurrent : st.current = some key) (hplain : PlainName name)
    (htype : ((expected.lookup key).bind fun values => values.lookup name) = some stringType)
    (hnewline : '\n' ∉ renderValue value) :
    regLines expected st (Str.lines (entryLine (name, value) ++ '\r' :: '\n' :: rest)) = (do
      let value ← parseRegValue stringType (renderValue value)
      refuse (((st.result[key]?).getD ∅).contains name) (.backupInvalid "duplicate registry value")
      regLines expected { st with
        result := st.result.insert key (((st.result[key]?).getD ∅).insert name value) }
        rest.lines) := by
  have hline : '\n' ∉ entryLine (name, value) := by
    rw [entryLine_eq]
    simp [newline_not_mem_entryStart hplain, hnewline]
  rw [Str.lines_return hline, regLines, entryLine_eq,
    regLine_entryStart hheader hcurrent hplain htype, rdropWhile_renderValue]
  simp only [bind_assoc, pure_bind]

/-- One written value: it is read, or the text is refused. -/
theorem regLines_entry {expected : RegistryGroups} {st final : RegState} {key : Str}
    {entry : Str × RegistryValue} {rest : Str} (hheader : st.header = true)
    (hcurrent : st.current = some key) (hplain : PlainName entry.1)
    (hexpected : Expected expected key entry)
    (h : regLines expected st (Str.lines (entryLine entry ++ '\r' :: '\n' :: rest)) = .ok final) :
    ∃ st', st'.header = true ∧ st'.current = some key ∧
      (∀ k n v, st'.result.Has k n v ↔ st.result.Has k n v ∨ k = key ∧ (n, v) = entry) ∧
      regLines expected st' rest.lines = .ok final := by
  obtain ⟨name, value⟩ := entry
  obtain ⟨stringType, htype, hfits⟩ := hexpected
  by_cases hnewline : '\n' ∈ renderValue value
  · exact absurd h (regLines_newline hheader hcurrent hplain htype hfits hnewline)
  · rw [regLines_entryLine hheader hcurrent hplain htype hnewline] at h
    obtain ⟨value', hvalue, h⟩ := except_bind_ok.mp h
    obtain rfl := parseRegValue_renderValue hfits hvalue
    obtain ⟨hnew, h⟩ := refuse_bind_ok.mp h
    refine ⟨{ st with
      result := st.result.insert key (((st.result[key]?).getD ∅).insert name value') },
      hheader, hcurrent, fun k n v => ?_, h⟩
    rw [RegistryBackup.has_insert_entry hnew]
    simp [Prod.ext_iff]

theorem renderEntries_cons (entry : Str × RegistryValue) (entries : List (Str × RegistryValue))
    (rest : Str) :
    ((entry :: entries).flatMap fun entry => entryLine entry ++ "\r\n".toList) ++ rest =
      entryLine entry ++ '\r' :: '\n' ::
        ((entries.flatMap fun entry => entryLine entry ++ "\r\n".toList) ++ rest) := by
  rw [List.flatMap_cons, List.append_assoc, List.append_assoc]
  rfl

theorem regLines_entries {expected : RegistryGroups} {st final : RegState} {key : Str}
    {entries : List (Str × RegistryValue)} {rest : Str} (hheader : st.header = true)
    (hcurrent : st.current = some key) (hplain : ∀ entry ∈ entries, PlainName entry.1)
    (hexpected : ∀ entry ∈ entries, Expected expected key entry)
    (h : regLines expected st (Str.lines
      ((entries.flatMap fun entry => entryLine entry ++ "\r\n".toList) ++ rest)) = .ok final) :
    ∃ st', st'.header = true ∧
      (∀ k n v, st'.result.Has k n v ↔ st.result.Has k n v ∨ k = key ∧ (n, v) ∈ entries) ∧
      regLines expected st' rest.lines = .ok final := by
  induction entries generalizing st with
  | nil => exact ⟨st, hheader, by simp, h⟩
  | cons entry entries ih =>
    rw [List.forall_mem_cons] at hplain hexpected
    rw [renderEntries_cons] at h
    obtain ⟨st1, hheader1, hcurrent1, hhas1, h⟩ :=
      regLines_entry hheader hcurrent hplain.1 hexpected.1 h
    obtain ⟨st2, hheader2, hhas2, h⟩ := ih hheader1 hcurrent1 hplain.2 hexpected.2 h
    refine ⟨st2, hheader2, fun k n v => ?_, h⟩
    rw [hhas2, hhas1, List.mem_cons, or_assoc, ← and_or_left]

/-- A line of a key, for a parser that has read the header. -/
theorem regLine_sectionLine {expected : RegistryGroups} {st : RegState} {key : Str}
    (hheader : st.header = true) :
    regLine expected st (sectionLine key) =
      if (expected.lookup (hklm ++ key)).isNone || st.result.contains (hklm ++ key) then
        invalid "registry backup contains an unknown or duplicate key"
      else .ok { st with
        result := st.result.insert (hklm ++ key) ∅, current := some (hklm ++ key) } := by
  have htrim : (Str.trim (sectionLine key)).dropWhile (· == '\ufeff') = sectionLine key := by
    have hself : Str.trim (sectionLine key) = sectionLine key := by
      refine (Str.trimMatches_eq_self_iff _ _).mpr ⟨?_, ?_⟩
      · intro c hc
        cases hc
        decide
      · intro c hc
        rw [show (sectionLine key).getLast? = some ']' by
          unfold sectionLine; rw [List.getLast?_concat]] at hc
        cases hc
        decide
    rw [hself]
    exact List.dropWhile_cons_of_neg (by decide)
  have hkey : (Str.stripPrefix ['['] (sectionLine key)).bind (Str.stripLast ']') =
      some (hklm ++ key) := by
    show (Str.stripPrefix ['['] (['['] ++ (hklm ++ key ++ [']']))).bind _ = _
    rw [Str.stripPrefix_append, Option.bind_some, Str.stripLast_append]
  have hne : (sectionLine key).isEmpty = false := rfl
  unfold regLine
  rw [htrim]
  simp only [hne, hkey, hheader, Bool.not_true, Bool.false_eq_true, if_false]

/-- A line of a key starts its section. -/
theorem regLine_section {expected : RegistryGroups} {st st' : RegState} {key : Str}
    (hheader : st.header = true) (h : regLine expected st (sectionLine key) = .ok st') :
    st.result.contains (hklm ++ key) = false ∧
      st' = { st with result := st.result.insert (hklm ++ key) ∅, current := some (hklm ++ key) } := by
  rw [regLine_sectionLine hheader] at h
  split at h
  · cases h
  · next hnew =>
    cases h
    refine ⟨?_, rfl⟩
    simp only [Bool.or_eq_true, not_or, Bool.not_eq_true] at hnew
    exact hnew.2

/-- A group begins with an empty line and the line of its key. -/
theorem regLines_group {expected : RegistryGroups} {st : RegState} {key : Str} (h : '\n' ∉ key)
    (entries : List (Str × RegistryValue)) (groups : List (Str × List (Str × RegistryValue))) :
    regLines expected st (Str.lines (((key, entries) :: groups).flatMap renderGroup)) = (do
      let st ← regLine expected st (sectionLine key)
      regLines expected st (Str.lines
        ((entries.flatMap fun entry => entryLine entry ++ "\r\n".toList) ++
          groups.flatMap renderGroup))) := by
  have hblank : regLine expected st [] = .ok st := rfl
  have htext : ((key, entries) :: groups).flatMap renderGroup =
      [] ++ '\r' :: '\n' :: (sectionLine key ++ '\r' :: '\n' ::
        ((entries.flatMap fun entry => entryLine entry ++ "\r\n".toList) ++
          groups.flatMap renderGroup)) := by
    rw [List.flatMap_cons]
    unfold renderGroup
    simp only [List.append_assoc]
    rfl
  have hsection : '\n' ∉ sectionLine key := by
    have hk : '\n' ∉ hklm := by decide
    simp [sectionLine, hk, h]
  rw [htext, Str.lines_return List.not_mem_nil, Str.lines_return hsection, regLines, hblank,
    except_ok_bind, regLines]

/-- The values of some keys, as the parser names them. -/
def GroupsHave (groups : List (Str × List (Str × RegistryValue))) (key name : Str)
    (value : RegistryValue) : Prop :=
  ∃ group ∈ groups, key = hklm ++ group.1 ∧ (name, value) ∈ group.2

/-- Groups that a list of expected values admits. -/
structure Admits (expected : RegistryGroups) (groups : List (Str × List (Str × RegistryValue))) :
    Prop where
  key : ∀ group ∈ groups, '\n' ∉ group.1
  name : ∀ group ∈ groups, ∀ entry ∈ group.2, PlainName entry.1
  type : ∀ group ∈ groups, ∀ entry ∈ group.2, Expected expected (hklm ++ group.1) entry

theorem regLines_groups {expected : RegistryGroups} {st final : RegState}
    {groups : List (Str × List (Str × RegistryValue))} (hheader : st.header = true)
    (hadmits : Admits expected groups)
    (h : regLines expected st (Str.lines (groups.flatMap renderGroup)) = .ok final) :
    final.header = true ∧
      ∀ k n v, final.result.Has k n v ↔ st.result.Has k n v ∨ GroupsHave groups k n v := by
  induction groups generalizing st with
  | nil =>
    cases h
    exact ⟨hheader, by simp [GroupsHave]⟩
  | cons group groups ih =>
    obtain ⟨key, entries⟩ := group
    obtain ⟨hkeys, hnames, htypes⟩ := hadmits
    rw [List.forall_mem_cons] at hkeys hnames htypes
    rw [regLines_group hkeys.1] at h
    obtain ⟨st1, hst1, h⟩ := except_bind_ok.mp h
    obtain ⟨hnew, rfl⟩ := regLine_section hheader hst1
    have hstarted : ({ st with
        result := st.result.insert (hklm ++ key) ∅,
        current := some (hklm ++ key) } : RegState).header = true := hheader
    obtain ⟨st2, hheader2, hhas2, h⟩ := regLines_entries hstarted rfl hnames.1 htypes.1 h
    obtain ⟨hheader3, hhas3⟩ := ih hheader2 ⟨hkeys.2, hnames.2, htypes.2⟩ h
    refine ⟨hheader3, fun k n v => ?_⟩
    rw [hhas3, hhas2, RegistryBackup.has_insert_section hnew, or_assoc]
    simp [GroupsHave]

/-- An export is UTF-8 without a byte order mark. -/
theorem decodeReg_render (groups : List (Str × List (Str × RegistryValue))) :
    decodeReg (renderRegistryExport groups).bytes = .ok (renderRegistryExport groups) := by
  have hfirst : ∀ b rest, (renderRegistryExport groups).bytes = b :: rest → b = 0x57 := by
    intro b rest he
    have : (renderRegistryExport groups).bytes = 0x57 :: Str.bytes
        ("indows Registry Editor Version 5.00".toList ++ "\r\n".toList ++ groups.flatMap renderGroup) := rfl
    rw [this] at he
    exact (List.cons.inj he).1.symm
  have hnot : ∀ b rest, b ≠ 0x57 → ¬ b :: rest <+: (renderRegistryExport groups).bytes := by
    rintro b rest hb ⟨t, ht⟩
    exact hb (hfirst b _ ht.symm)
  unfold decodeReg
  rw [if_neg (hnot _ _ (by decide)), if_neg (hnot _ _ (by decide))]
  simp only
  rw [Str.fromUtf8_bytes]

/-- What is left of reading an export behind its header. -/
theorem parseRegistrySections_regLines (expected : RegistryGroups)
    (groups : List (Str × List (Str × RegistryValue))) :
    parseRegistrySections (renderRegistryExport groups).bytes expected = (do
      let st ← regLines expected ⟨∅, none, true⟩ (Str.lines (groups.flatMap renderGroup))
      refuse (!st.header || st.result.size != expected.length)
        (.backupInvalid "registry backup is missing a required key")
      refuse (!expected.all (completeSection st.result))
        (.backupInvalid "registry backup is missing required value state")
      return st.result) := by
  have hheader : regLine expected ⟨∅, none, false⟩ regHeader = .ok ⟨∅, none, true⟩ := by
    rfl
  have htext : renderRegistryExport groups = regHeader ++ '\r' :: '\n' :: groups.flatMap renderGroup := by
    unfold renderRegistryExport
    rw [List.append_assoc]
    rfl
  unfold parseRegistrySections
  rw [decodeReg_render, except_ok_bind, htext, Str.lines_return (by decide), regLines, hheader,
    except_ok_bind]

end NetworkLantern.Tuning
