import Mathlib
import Vdba.Text.Pattern
import Vdba.Issue

namespace Vdba
open Text (Pattern)

/-- `[0-9a-f]`. -/
def hexDigit (c : Char) : Bool := c ∈ "0123456789abcdef".toList

def grantIdPattern : Pattern := .seq (.text "vdba_".toList) (.run hexDigit 10)

/-- `vdba_[0-9a-f]{10}_[a-z0-9]{6}`. -/
def ACCOUNT_RE : Pattern :=
  .seq (.text "vdba_".toList) (.seq (.run hexDigit 10) (.seq (.text ['_']) (.run lowerAlnum 6)))

/-- The path parameter of the revoke route: `^vdba_[0-9a-f]{10}$`. -/
def GRANT_ID : Pattern := grantIdPattern.anchored

/-- The guard of `vdba.lockout_role` and `vdba.cleanup_role`: `^vdba_[0-9a-f]{10}_[a-z0-9]{6}$`. -/
def roleGuard : Pattern := ACCOUNT_RE.anchored

/-- Vault's `USERNAME_TEMPLATE` for what `random 6` has drawn. -/
def usernameTemplate (roleName : String) (random : List Char) : String :=
  roleName ++ "_" ++ String.ofList (random.map Char.toLower)

section shapes
variable {name : String}

theorem grantId_full {chars : List Char} :
    grantIdPattern.Full chars ↔ ∃ id : GrantId, chars = id.text.toList := by
  have parts : grantIdPattern.Full chars ↔ ∃ left digits, chars = left ++ digits ∧ left = "vdba_".toList ∧
      digits.length = 10 ∧ ∀ d ∈ digits, hexDigit d = true := by simp [grantIdPattern]
  rw [parts]
  constructor
  · rintro ⟨_, digits, rfl, rfl, length, hex⟩
    refine ⟨⟨⟨digits, length, fun d member => by simpa [hexDigit] using hex d member⟩⟩, ?_⟩
    rw [GrantId.text_toList]
  · rintro ⟨⟨⟨digits, length, hex⟩⟩, rfl⟩
    rw [GrantId.text_toList]
    exact ⟨_, digits, rfl, rfl, length, fun d member => by simpa [hexDigit] using hex d member⟩

theorem account_full {chars : List Char} :
    ACCOUNT_RE.Full chars ↔ ∃ (id : GrantId) (suffix : List Char), isSuffix suffix = true ∧
      chars = (id.text ++ "_" ++ String.ofList suffix).toList := by
  have parts : ACCOUNT_RE.Full chars ↔ ∃ left right, chars = left ++ right ∧ left = "vdba_".toList ∧
      ∃ digits rest, right = digits ++ rest ∧ (digits.length = 10 ∧ ∀ d ∈ digits, hexDigit d = true) ∧
      ∃ dash suffix, rest = dash ++ suffix ∧ dash = ['_'] ∧ suffix.length = 6 ∧ ∀ c ∈ suffix, lowerAlnum c = true := by
    simp [ACCOUNT_RE]
  rw [parts]
  constructor
  · rintro ⟨_, _, rfl, rfl, digits, _, rfl, ⟨length, hex⟩, _, suffix, rfl, rfl, six, lower⟩
    refine ⟨⟨⟨digits, length, fun d member => by simpa [hexDigit] using hex d member⟩⟩, suffix, ?_, ?_⟩
    · simpa [isSuffix, six] using lower
    · simp [String.toList_append, GrantId.text_toList]
  · rintro ⟨⟨⟨digits, length, hex⟩⟩, suffix, drawn, rfl⟩
    simp only [isSuffix, Bool.and_eq_true, decide_eq_true_eq, List.all_eq_true] at drawn
    refine ⟨_, _, ?_, rfl, digits, '_' :: suffix, rfl, ⟨length, fun d member => by simpa [hexDigit] using hex d member⟩,
      ['_'], suffix, rfl, rfl, drawn.1, drawn.2⟩
    simp [String.toList_append, GrantId.text_toList]

theorem isAccount_iff : isAccount name = true ↔ ACCOUNT_RE.Full name.toList := by
  rw [account_full]
  constructor
  · intro valid
    simp only [isAccount, Bool.and_eq_true, decide_eq_true_eq, List.all_eq_true] at valid
    obtain ⟨⟨⟨⟨total, front⟩, hex⟩, dash⟩, lower⟩ := valid
    have ten : ((name.toList.drop 5).take 10).length = 2 * 5 := by
      rw [List.length_take, List.length_drop, total]
      rfl
    refine ⟨⟨⟨(name.toList.drop 5).take 10, ten, hex⟩⟩, name.toList.drop 16, ?_, ?_⟩
    · simp only [isSuffix, Bool.and_eq_true, decide_eq_true_eq, List.all_eq_true, List.length_drop, total]
      exact ⟨trivial, lower⟩
    · calc name.toList
          = name.toList.take 5 ++ name.toList.drop 5 := (List.take_append_drop 5 _).symm
        _ = name.toList.take 5 ++ ((name.toList.drop 5).take 10 ++ name.toList.drop 15) := by
          rw [show name.toList.drop 15 = (name.toList.drop 5).drop 10 by rw [List.drop_drop],
            List.take_append_drop 10]
        _ = name.toList.take 5 ++ ((name.toList.drop 5).take 10 ++ ((name.toList.drop 15).take 1 ++ name.toList.drop 16)) := by
          rw [show name.toList.drop 16 = (name.toList.drop 15).drop 1 by rw [List.drop_drop], List.take_append_drop 1]
        _ = _ := by simp [front, dash, String.toList_append, GrantId.text_toList]
  · rintro ⟨id, suffix, drawn, same⟩
    rw [String.toList_inj] at same
    rw [same]
    exact isAccount_suffix id drawn

theorem validAccount_iff : validAccount name = .ok name ↔ isAccount name = true := by
  unfold validAccount
  split <;> simp [*]

theorem roleGuard_iff : roleGuard.Found name.toList ↔ isAccount name = true := by
  have plain : ACCOUNT_RE.Plain := by simp [ACCOUNT_RE]
  rw [roleGuard, Pattern.found_anchored plain, isAccount_iff]

/-- An account name is a grant id and six characters of `[a-z0-9]`. -/
theorem isAccount_parts : isAccount name = true ↔
    ∃ (id : GrantId) (suffix : List Char), isSuffix suffix = true ∧ name = id.text ++ "_" ++ String.ofList suffix := by
  simp only [isAccount_iff, account_full, String.toList_inj]

theorem grantId_found : GRANT_ID.Found name.toList ↔ ∃ id : GrantId, name = id.text := by
  have plain : grantIdPattern.Plain := by simp [grantIdPattern]
  simp only [GRANT_ID, Pattern.found_anchored plain, grantId_full, String.toList_inj]

theorem lowerAlnum_toLower {c : Char} (drawn : c.isAlphanum = true) : lowerAlnum c.toLower = true := by
  simp only [Char.isAlphanum, Char.isAlpha, Char.isUpper, Char.isLower, Char.isDigit, Bool.or_eq_true, Bool.and_eq_true,
    decide_eq_true_eq, ge_iff_le, UInt32.le_iff_toNat_le] at drawn
  simp only [lowerAlnum, Char.isLower, Char.isDigit, Bool.or_eq_true, Bool.and_eq_true, decide_eq_true_eq, ge_iff_le,
    UInt32.le_iff_toNat_le]
  unfold Char.toLower
  split
  · rename_i upper
    simp only [ge_iff_le, UInt32.le_iff_toNat_le] at upper
    simp at upper ⊢
    omega
  · rename_i other
    simp only [ge_iff_le, UInt32.le_iff_toNat_le] at other
    simp at other drawn ⊢
    omega

theorem toLower_lowerAlnum {c : Char} (lower : lowerAlnum c = true) : c.toLower = c := by
  simp only [lowerAlnum, Char.isLower, Char.isDigit, Bool.or_eq_true, Bool.and_eq_true, decide_eq_true_eq, ge_iff_le,
    UInt32.le_iff_toNat_le] at lower
  unfold Char.toLower
  split
  · rename_i upper
    simp only [ge_iff_le, UInt32.le_iff_toNat_le] at upper
    simp at upper lower
    omega
  · rfl

theorem isSuffix_toLower {random : List Char} (six : random.length = 6) (drawn : ∀ c ∈ random, c.isAlphanum = true) :
    isSuffix (random.map Char.toLower) = true := by
  simp only [isSuffix, List.length_map, six, decide_true, Bool.true_and, List.all_eq_true, List.mem_map]
  rintro _ ⟨c, member, rfl⟩
  exact lowerAlnum_toLower (drawn c member)

theorem usernameTemplate_suffix {suffix : List Char} (drawn : isSuffix suffix = true) (roleName : String) :
    usernameTemplate roleName suffix = roleName ++ "_" ++ String.ofList suffix := by
  simp only [isSuffix, Bool.and_eq_true, List.all_eq_true] at drawn
  rw [usernameTemplate, List.map_congr_left fun c member => toLower_lowerAlnum (drawn.2 c member), List.map_id']

/-- Two grant ids in front of one name are the same, and so is what follows. -/
theorem split_unique {g h : GrantId} {s t : String} (same : g.text ++ "_" ++ s = h.text ++ "_" ++ t) : g = h ∧ s = t := by
  have lists := congrArg String.toList same
  simp only [String.toList_append, List.append_assoc] at lists
  obtain ⟨ids, rest⟩ := List.append_inj lists (by rw [GrantId.length_text, GrantId.length_text])
  obtain rfl := GrantId.text_injective (String.toList_inj.mp ids)
  exact ⟨rfl, String.toList_inj.mp (List.append_cancel_left rest)⟩

/-- The characters of account names. -/
theorem isAccount_chars (valid : isAccount name = true) : ∀ c ∈ name.toList, lowerAlnum c = true ∨ c = '_' := by
  obtain ⟨⟨⟨digits, length, hex⟩⟩, suffix, drawn, rfl⟩ := isAccount_parts.mp valid
  simp only [isSuffix, Bool.and_eq_true, List.all_eq_true] at drawn
  intro c member
  simp only [String.toList_append, GrantId.text_toList, String.toList_ofList, List.mem_append] at member
  rcases member with ((letter | digit) | dash) | last
  · revert letter
    have letters : "vdba_".toList.all (fun d => lowerAlnum d || d == '_') = true := by decide
    simpa using List.all_eq_true.mp letters c
  · have digits : "0123456789abcdef".toList.all lowerAlnum = true := by decide
    exact Or.inl (List.all_eq_true.mp digits c (hex c digit))
  · exact Or.inr (by simpa using dash)
  · exact Or.inl (drawn.2 c last)

end shapes

/-- The id generator, the path of the revoke route, `valid_account`, the guards in the database, Vault's template and
the search for the accounts of a grant agree on the names. -/
theorem account_names_agree :
    (∀ (id : GrantId) (random : List Char), random.length = 6 → (∀ c ∈ random, c.isAlphanum = true) →
      validAccount (usernameTemplate id.text random) = .ok (usernameTemplate id.text random) ∧
        roleGuard.Found (usernameTemplate id.text random).toList ∧ id.OwnsAccount (usernameTemplate id.text random)) ∧
    (∀ (id : GrantId) (role : Role) (suffix : List Char), isSuffix suffix = true →
      usernameTemplate id.text suffix = id.text ++ "_" ++ String.ofList suffix ∧
        (World.opened id.text role suffix).account = usernameTemplate id.text suffix) ∧
    (∀ name, validAccount name = .ok name ↔ roleGuard.Found name.toList) ∧
    (∀ name, validAccount name = .ok name →
      (∃! parts : String × String, GRANT_ID.Found parts.1.toList ∧ name = parts.1 ++ "_" ++ parts.2) ∧
        ∀ c ∈ name.toList, c ≠ '\'' ∧ c ≠ '\\') ∧
    ∀ (id : GrantId) (hex : Hex 2), validAccount (id.text ++ "_h" ++ hex.text) ≠ .ok (id.text ++ "_h" ++ hex.text) := by
  refine ⟨fun id random six drawn => ?_, fun id role suffix drawn => ?_, fun name => ?_, fun name valid => ⟨?_, ?_⟩,
    fun id hex valid => ?_⟩
  · have valid : isAccount (usernameTemplate id.text random) = true := isAccount_suffix id (isSuffix_toLower six drawn)
    refine ⟨validAccount_iff.mpr valid, roleGuard_iff.mpr valid, ?_⟩
    rw [usernameTemplate, GrantId.OwnsAccount]
    simp only [String.toList_append (s := id.text ++ "_")]
    exact List.prefix_append _ _
  · rw [usernameTemplate_suffix drawn]
    exact ⟨rfl, rfl⟩
  · rw [validAccount_iff, roleGuard_iff]
  · obtain ⟨id, suffix, drawn, rfl⟩ := isAccount_parts.mp (validAccount_iff.mp valid)
    refine ⟨(id.text, String.ofList suffix), ⟨grantId_found.mpr ⟨id, rfl⟩, rfl⟩, fun ⟨front, rest⟩ ⟨found, same⟩ => ?_⟩
    obtain ⟨other, rfl⟩ := grantId_found.mp found
    obtain ⟨rfl, rfl⟩ := split_unique same
    rfl
  · intro c member
    rcases isAccount_chars (validAccount_iff.mp valid) c member with lower | rfl
    · constructor
      · rintro rfl
        cases lower
      · rintro rfl
        cases lower
    · decide
  · obtain ⟨other, suffix, drawn, same⟩ := isAccount_parts.mp (validAccount_iff.mp valid)
    have lengths := congrArg (fun name : String => name.toList.length) same
    simp only [isSuffix, Bool.and_eq_true, decide_eq_true_eq] at drawn
    simp only [String.toList_append, List.length_append, GrantId.length_text, Hex.text, String.toList_ofList,
      hex.property.1, drawn.1, show "_h".toList.length = 2 from rfl, show "_".toList.length = 1 from rfl] at lengths
    omega

end Vdba
