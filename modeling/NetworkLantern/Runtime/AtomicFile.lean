import NetworkLantern.Lib.JsonPretty
import NetworkLantern.Runtime.Measurements

/-!
# Files that are replaced whole

`atomic_json` writes a document to a staged file and moves it to its place.  Up to the
move the file is what it was; behind it the new document is published, also where the
last sync fails.
-/

namespace NetworkLantern.Runtime

open NetworkLantern Act

def REPORT_LIMIT : Nat := 16 * 1024 * 1024

/-- The calls of `atomic_bytes`, on a file by its name.  Each takes time, and may fail. -/
structure Disk (W : Type) where
  /-- `check_path(path)`. -/
  checkPath : Str → Act W Error Unit
  /-- `create_dir_all(parent)`. -/
  createParent : Str → Act W Error Unit
  /-- `NamedTempFile::new_in(parent)`. -/
  stage : Str → Act W Error Unit
  writeAll : Str → Act W Error Unit
  syncStaged : Act W Error Unit
  /-- `staged.persist(path)`. -/
  persist : Str → Act W Error Unit
  /-- `File::open(parent)?.sync_all()`. -/
  syncParent : Str → Act W Error Unit
  /-- Whether the run is cancelled by then. -/
  cancelled : W → Bool

section
variable {W : Type} [Json.FloatText] [Host] (disk : Disk W)

/-- `atomic_bytes` up to the move. -/
def Disk.replace (name bytes : Str) : Act W Error Unit := do
  disk.checkPath name
  disk.createParent name
  disk.checkPath name
  disk.stage name
  disk.writeAll bytes
  disk.syncStaged
  disk.checkPath name
  disk.persist name

/-- The same call, next to whether the file is published. -/
def unpublished {α : Type} (x : Act W Error α) : Act (W × Bool) Error α := fun s =>
  ((x s.1).1, (x s.1).2, s.2)

def Disk.atomicBytes (name bytes : Str) : Act (W × Bool) Error Unit := do
  unpublished (disk.replace name bytes)
  Act.modify fun s => (s.1, true)
  Act.when (!Host.windows) (unpublished (disk.syncParent name))

def Disk.atomicJson (name : Str) (value : Json) (limit : Nat) : Act (W × Bool) Error Unit :=
  if limit < value.pretty.byteLen then
    Act.fail (.validation ("Record exceeds ".toList ++ decimal limit ++ " bytes".toList))
  else disk.atomicBytes name value.pretty

/-- The document fits and takes its place. -/
def Disk.Lands (name : Str) (value : Json) (limit : Nat) (world : W) : Prop :=
  value.pretty.byteLen ≤ limit ∧ (disk.replace name value.pretty world).1 = .ok ()

/-- A write publishes its document exactly if it fits and takes its place. -/
theorem Disk.published_iff (name : Str) (value : Json) (limit : Nat) (world : W) :
    (disk.atomicJson name value limit (world, false)).2.2 = true ↔
      disk.Lands name value limit world := by
  unfold atomicJson Lands
  by_cases hlarge : limit < value.pretty.byteLen
  · rw [if_pos hlarge]
    exact iff_of_false Bool.false_ne_true fun h => absurd h.1 (Nat.not_le_of_lt hlarge)
  · rw [if_neg hlarge]
    unfold atomicBytes
    rcases hreplace : disk.replace name value.pretty world with ⟨result, world'⟩
    have hfirst : unpublished (disk.replace name value.pretty) (world, false) =
        (result, world', false) := by
      unfold unpublished
      rw [hreplace]
    cases result with
    | error e =>
      rw [bind_of_error hfirst]
      exact iff_of_false Bool.false_ne_true fun h => by cases h.2
    | ok u =>
      have hmark : (Act.modify (fun s : W × Bool => (s.1, true)) : Act (W × Bool) Error Unit)
          (world', false) = (.ok (), world', true) := rfl
      rw [bind_of_ok hfirst, bind_of_ok hmark]
      refine iff_of_true ?_ ⟨Nat.le_of_not_lt hlarge, rfl⟩
      cases hw : Host.windows with
      | true => rfl
      | false => rfl

end

end NetworkLantern.Runtime
