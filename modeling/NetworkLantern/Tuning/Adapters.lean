import NetworkLantern.Tuning.AdapterCsv
import NetworkLantern.Tuning.Effects

/-!
# Adapters and the power plan

`nicCsv` and `rscCsv` write the properties of the physical adapters that are up;
`restoreNic` and `restoreRsc` write them back, and look each one up by its names.

`restoreNic` is a list of writes that its inputs determine (`nicWrites`); a restore
that passes has done them (`restoreNic_ok`).
-/

namespace NetworkLantern.Tuning

open NetworkLantern Act

/-! ## Reading -/

/-- `HardwareInterface = TRUE AND Status = 'Up'`; the query language compares without case. -/
def isPhysicalUp (f : Fields) : Bool :=
  f "HardwareInterface" == some (.bool true) &&
    match f "Status" with
    | some (.string status) => status.eqCI "Up"
    | _ => false

def adapterName (row : Row) : Except TuningError Str :=
  match (row.string "Name").filter fun name => !name.isEmpty with
  | some name => .ok name
  | none => .error (providerError "read physical adapter inventory"
      "provider returned an adapter without a name")

def physicalUpAdapters : Run (List Str) := do
  let rows ← Session.queryWhere .netAdapter ["Name", "HardwareInterface", "Status"] isPhysicalUp
  Act.lift (rows.mapM adapterName)

def nicFields : List String :=
  ["Name", "DisplayName", "RegistryKeyword", "DisplayValue", "RegistryValue"]

def ofAdapters (adapters : List Str) (row : Row) : Bool :=
  (row.string "Name").any fun name => adapters.contains name

/-- A row as the backup keeps it. -/
def nicAdvancedRow (row : Row) : NicAdvancedRow where
  adapter := (row.string "Name").getD []
  displayName := (row.string "DisplayName").getD []
  registryKeyword := (row.string "RegistryKeyword").getD []
  displayValue := (row.string "DisplayValue").getD []
  registryValue := (((row.strings "RegistryValue").bind List.head?)).getD []

def nicWarnings (csv : NicCsv) : List Str :=
  (if 0 < csv.skipped then [decimal csv.skipped ++
    " NIC properties without a registry value were not backed up and will not be changed".toList]
    else []) ++
  (if 0 < csv.truncated then ["NIC backup is limited to ".toList ++ decimal maxNicRows ++
    " properties; ".toList ++ decimal csv.truncated ++
    " more were not backed up and will not be changed".toList] else [])

/-- The advanced properties of some adapters as a file, and what is warned of. -/
def nicCsv (csv : CsvFormat) (adapters : List Str) : Run (Bytes × List Str) := do
  let rows ← Session.query .advancedProperty nicFields
  let written := writeNicCsv csv ((rows.filter (ofAdapters adapters)).map nicAdvancedRow)
  return (written.bytes, nicWarnings written)

def rscRowOf (row : Row) : RscRow where
  name := (row.string "Name").getD []
  ipv4Enabled := (row.boolean "IPv4Enabled").getD false
  ipv6Enabled := (row.boolean "IPv6Enabled").getD false

def rscCsv (csv : CsvFormat) (adapters : List Str) : Run (Bytes × List Str) := do
  let rows ← Session.query .rscSetting ["Name", "IPv4Enabled", "IPv6Enabled"]
  let rows := rows.filter (ofAdapters adapters)
  let warnings := if maxRscRows < rows.length then
    ["RSC backup is limited to ".toList ++ decimal maxRscRows ++ " adapters; ".toList ++
      decimal (rows.length - maxRscRows) ++ " more were not backed up".toList] else []
  return (rscBytes csv ((rows.take maxRscRows).map rscRowOf), warnings)

/-! ## Restoring advanced properties -/

/-- The row of the adapter with the keyword or the display name of `value`. -/
def nicMatches (value : NicAdvancedRow) (row : Row) : Bool :=
  row.string "Name" == some value.adapter &&
    ((!value.registryKeyword.isEmpty && row.string "RegistryKeyword" == some value.registryKeyword) ||
      (!value.displayName.isEmpty && row.string "DisplayName" == some value.displayName))

/-- What is written to the row of `value`; a row that has the value already is left alone. -/
def nicUpdate (value : NicAdvancedRow) (row : Row) : Option (String × Value) :=
  if !value.registryKeyword.isEmpty then
    if (row.strings "RegistryValue").bind List.head? = some value.registryValue then none
    else some ("RegistryValue", .strings [value.registryValue])
  else if row.string "DisplayValue" ≠ some value.displayValue then
    some ("DisplayValue", .string value.displayValue)
  else none

def restoreNicRow (rows : List Row) (value : NicAdvancedRow) : Run Unit :=
  match rows.find? (nicMatches value) with
  | none => Act.fail (providerError "restore NIC property"
      ("property missing for ".toList ++ value.adapter))
  | some row =>
    match nicUpdate value row with
    | none => return ()
    | some update => Session.update row [update]

def restoreNicFields : List String :=
  ["__PATH", "Name", "DisplayName", "RegistryKeyword", "DisplayValue", "RegistryValue"]

def restoreNic (desired : List NicAdvancedRow) : Run Unit := do
  let rows ← Session.query .advancedProperty restoreNicFields
  Act.forEach desired (restoreNicRow rows)

/-! ## Restoring receive segment coalescing -/

def restoreRscRow (rows : List Row) (value : RscRow) : Run Unit :=
  match rows.find? fun row => row.string "Name" == some value.name with
  | none => Act.fail (providerError "restore RSC" ("adapter missing: ".toList ++ value.name))
  | some row => do
    (if value.ipv4Enabled || value.ipv6Enabled then
      Session.invoke row true value.ipv4Enabled value.ipv6Enabled else return ())
    (if !value.ipv4Enabled || !value.ipv6Enabled then
      Session.invoke row false (!value.ipv4Enabled) (!value.ipv6Enabled) else return ())

def restoreRsc (desired : List RscRow) : Run Unit := do
  let rows ← Session.query .rscSetting ["__PATH", "Name"]
  Act.forEach desired (restoreRscRow rows)

/-! ## Power plan -/

def activePowerPlan : Run Str :=
  inspect (nativeFailure "read active power plan") fun w => .ok w.machine.power.format

/-- White space and braces around a GUID. -/
def guidPadding (c : Char) : Bool := Str.isWhitespace c || c == '\x7b' || c == '\x7d'

def setPowerPlan (env : Env) (value : Str) : Run Unit :=
  match env.parseUuid (Str.trimMatches guidPadding value) with
  | none => Act.fail (.backupInvalid "power plan GUID is invalid")
  | some guid => change (nativeFailure "set active power plan") fun w =>
      .ok ((w.setPower guid).record .powerPlan)

/-! ## Effects -/

section
variable {P : Mutation → Prop}

theorem physicalUpAdapters_reads : Keeps Reads physicalUpAdapters :=
  Keeps.bind Reads.trans (query_reads _ _ _) fun _ => Keeps.lift Reads.refl _

theorem nicCsv_reads (csv : CsvFormat) (adapters : List Str) : Keeps Reads (nicCsv csv adapters) :=
  Keeps.bind Reads.trans (query_reads _ _ _) fun _ => Keeps.pure Reads.refl _

theorem rscCsv_reads (csv : CsvFormat) (adapters : List Str) : Keeps Reads (rscCsv csv adapters) :=
  Keeps.bind Reads.trans (query_reads _ _ _) fun _ => Keeps.pure Reads.refl _

theorem activePowerPlan_reads : Keeps Reads activePowerPlan := inspect_reads _ _

theorem update_effect {row : Row} {values : List (String × Value)}
    (hP : P (.nicProperty (row.string "Name") (row.string "RegistryKeyword"))) :
    Keeps (Effect [.nic] P) (Session.update row values) := by
  refine change_keeps Effect.advance fun w w' h => ?_
  split at h
  · cases h
    exact ⟨rfl, fun _ => rfl, fun _ => rfl, fun h => absurd List.mem_cons_self h, fun _ => rfl,
      fun _ => rfl, fun _ => rfl, [_], rfl, by simpa using hP⟩
  · cases h

theorem restoreNic_effect (desired : List NicAdvancedRow)
    (hP : ∀ adapter keyword, P (.nicProperty adapter keyword)) :
    Keeps (Effect [.nic] P) (restoreNic desired) := by
  refine Effect.bind (Reads.keeps (query_reads _ _ _)) fun rows => Effect.forEach _ fun value _ => ?_
  unfold restoreNicRow
  cases rows.find? (nicMatches value) with
  | none => exact Effect.fail _
  | some row =>
    cases h : nicUpdate value row with
    | none => simpa only [h] using Effect.pure ()
    | some update => simpa only [h] using update_effect (hP _ _)

theorem invoke_effect {row : Row} {value ipv4 ipv6 : Bool} (hP : ∀ adapter, P (.rsc adapter)) :
    Keeps (Effect [.rsc] P) (Session.invoke row value ipv4 ipv6) := by
  unfold Session.invoke
  cases row.string "__PATH" with
  | none => exact Effect.fail _
  | some path =>
    refine change_keeps Effect.advance fun w w' h => ?_
    split at h
    · cases h
      exact ⟨rfl, fun _ => rfl, fun _ => rfl, fun _ => rfl, fun h => absurd List.mem_cons_self h,
        fun _ => rfl, fun _ => rfl, [_], rfl, by simpa using hP _⟩
    · cases h

theorem restoreRsc_effect (desired : List RscRow) (hP : ∀ adapter, P (.rsc adapter)) :
    Keeps (Effect [.rsc] P) (restoreRsc desired) := by
  refine Effect.bind (Reads.keeps (query_reads _ _ _)) fun rows => Effect.forEach _ fun value _ => ?_
  unfold restoreRscRow
  cases rows.find? fun row => row.string "Name" == some value.name with
  | none => exact Effect.fail _
  | some row =>
    refine Effect.bind ?_ fun _ => ?_
    · split
      · exact invoke_effect hP
      · exact Effect.pure ()
    · split
      · exact invoke_effect hP
      · exact Effect.pure ()

theorem setPowerPlan_effect (env : Env) (value : Str) (hP : P .powerPlan) :
    Keeps (Effect [.power] P) (setPowerPlan env value) := by
  unfold setPowerPlan
  cases env.parseUuid (Str.trimMatches guidPadding value) with
  | none => exact Effect.fail _
  | some guid =>
    refine change_keeps Effect.advance fun w w' h => ?_
    cases h
    exact ⟨rfl, fun _ => rfl, fun _ => rfl, fun _ => rfl, fun _ => rfl,
      fun h => absurd List.mem_cons_self h, fun _ => rfl, [.powerPlan], rfl, by simpa using hP⟩

end

/-! ## The writes of a restore -/

/-- A write to a property: its position, the field and the value. -/
structure NicWrite where
  position : Nat
  field : String
  value : Value
deriving DecidableEq

def applyWrite (nic : List Fields) (write : NicWrite) : List Fields :=
  nic.modify write.position fun f => f.put write.field write.value

/-- The write that restores a row, if it needs one. -/
def nicWrite (rows : List Row) (value : NicAdvancedRow) : Option NicWrite :=
  (rows.find? (nicMatches value)).bind fun row =>
    (nicUpdate value row).map fun update => ⟨row.object, update.1, update.2⟩

def nicWrites (nic : List Fields) (desired : List NicAdvancedRow) : List NicWrite :=
  desired.filterMap (nicWrite (Session.rows nic restoreNicFields fun _ => true))

theorem update_ok {row : Row} {field : String} {value : Value} {w w' : World}
    (h : Session.update row [(field, value)] w = (.ok (), w')) :
    w'.machine.nic = applyWrite w.machine.nic ⟨row.object, field, value⟩ := by
  obtain ⟨-, h⟩ := change_ok.mp h
  split at h
  · cases h
    rfl
  · cases h

theorem restoreNicRows_ok {rows : List Row} {desired : List NicAdvancedRow} {w w' : World}
    (h : Act.forEach desired (restoreNicRow rows) w = (.ok (), w')) :
    w'.machine.nic = (desired.filterMap (nicWrite rows)).foldl applyWrite w.machine.nic := by
  induction desired generalizing w with
  | nil => cases h; rfl
  | cons value desired ih =>
    obtain ⟨_, w1, h1, h⟩ := bind_ok.mp (forEach_cons value desired _ ▸ h)
    rw [ih h, List.filterMap_cons]
    unfold restoreNicRow at h1
    unfold nicWrite
    cases hfind : rows.find? (nicMatches value) with
    | none => rw [hfind] at h1; cases h1
    | some row =>
      rw [hfind] at h1
      cases hupdate : nicUpdate value row with
      | none =>
        simp only [hupdate] at h1
        cases h1
        simp [hupdate]
      | some update =>
        simp only [hupdate] at h1
        simp only [Option.bind_some, hupdate, Option.map_some, List.foldl_cons]
        have hwritten : w1.machine.nic = applyWrite w.machine.nic ⟨row.object, update.1, update.2⟩ :=
          update_ok h1
        rw [hwritten]

/-- A passed restore has done the writes. -/
theorem restoreNic_ok {desired : List NicAdvancedRow} {w w' : World}
    (h : restoreNic desired w = (.ok (), w')) :
    w'.machine.nic = (nicWrites w.machine.nic desired).foldl applyWrite w.machine.nic := by
  obtain ⟨rows, w1, hquery, h⟩ := bind_ok.mp h
  obtain ⟨-, rfl, rfl⟩ := query_ok hquery
  exact restoreNicRows_ok (w := w.advance) h

end NetworkLantern.Tuning
