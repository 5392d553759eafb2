import NetworkLantern.Tuning.Types

/-!
# Absolute paths of local executables

The planner, the policy inventory and the backup validator each check an
application path.  The three checks differ in the drive letter and in the
separator they accept after it, so they are one definition here with these two
as parameters.
-/

namespace NetworkLantern.Tuning

open NetworkLantern

/-- At least 7 bytes `D:\….exe`: a drive byte that `drive` accepts, a colon, a byte of
`separators`; not a UNC or verbatim path, without NUL. -/
def exePath (drive : UInt8 → Bool) (separators : List UInt8) (path : Str) : Bool :=
  let b := path.bytes
  decide (7 ≤ b.length) &&
  b[0]?.any drive &&
  b[1]? == some 58 &&
  b[2]?.any (separators.contains ·) &&
  ".exe".toList.isSuffixOf path.lower &&
  !"\\\\".toList.isPrefixOf path &&
  !"\\\\?\\".toList.isPrefixOf path &&
  !path.contains '\x00'

def isAsciiAlphabetic (b : UInt8) : Bool := (65 ≤ b && b ≤ 90) || (97 ≤ b && b ≤ 122)

/-- A path that one check accepts passes a laxer one as soon as the byte after the
drive is a separator of that one. -/
theorem exePath_iff_of_imp {drive drive' : UInt8 → Bool} {separators separators' : List UInt8}
    (hd : ∀ b, drive b = true → drive' b = true) {path : Str}
    (h : exePath drive separators path = true) :
    exePath drive' separators' path = true ↔
      path.bytes[2]?.any (separators'.contains ·) = true := by
  unfold exePath at h ⊢
  simp only [Bool.and_eq_true] at h ⊢
  obtain ⟨⟨⟨⟨⟨⟨⟨h1, h2⟩, h3⟩, -⟩, h5⟩, h6⟩, h7⟩, h8⟩ := h
  have h2' : path.bytes[0]?.any drive' = true := by
    obtain ⟨b, hb, hdb⟩ := (Option.any_eq_true _ _).mp h2
    exact (Option.any_eq_true _ _).mpr ⟨b, hb, hd b hdb⟩
  constructor
  · rintro ⟨⟨⟨⟨⟨-, h4⟩, -⟩, -⟩, -⟩, -⟩
    exact h4
  · intro h4
    exact ⟨⟨⟨⟨⟨⟨⟨h1, h2'⟩, h3⟩, h4⟩, h5⟩, h6⟩, h7⟩, h8⟩

end NetworkLantern.Tuning
