import Mathlib.Data.List.Sort
import Mathlib.Data.List.Infix
import Mathlib.Data.String.Basic

namespace Vdba

inductive DbType
  | postgres
  | clickhouse
  deriving DecidableEq

def DbType.value : DbType → String
  | .postgres => "postgres"
  | .clickhouse => "clickhouse"

inductive Scope
  | database
  | tables
  deriving DecidableEq

def Scope.value : Scope → String
  | .database => "database"
  | .tables => "tables"

inductive Status
  | issuing
  | active
  | revoking
  | revoked
  | expired
  | failed
  deriving DecidableEq

def Status.value : Status → String
  | .issuing => "issuing"
  | .active => "active"
  | .revoking => "revoking"
  | .revoked => "revoked"
  | .expired => "expired"
  | .failed => "failed"

/-- Membership in `TERMINAL`. -/
def Status.terminal : Status → Bool
  | .revoked | .expired | .failed => true
  | .issuing | .active | .revoking => false

/-- `GrantRequest` after pydantic accepted it. -/
structure GrantRequest where
  dbType : DbType
  scope : Scope
  tables : List String
  commands : List String
  ttlSeconds : Int
  requestedFor : String
  deriving DecidableEq

/-- The exception classes the portal tells apart. hvac's other errors are `vaultError`, requests' and
the sockets' are `osError`; both and `sqliteError` and `other` carry the name of the class. -/
inductive ExcClass
  | valueError
  | runtimeError
  | permissionError
  | busy
  | notFound
  | vaultUnavailable
  | forbidden
  | invalidRequest
  | invalidPath
  | vaultDown
  | vaultError (name : String)
  | osError (name : String)
  | sqliteError (name : String)
  | http (status : Nat)
  | other (name : String)
  deriving DecidableEq

structure Exc where
  cls : ExcClass
  text : String
  deriving DecidableEq

/-- `type(exc).__name__`. -/
def ExcClass.name : ExcClass → String
  | .valueError => "ValueError"
  | .runtimeError => "RuntimeError"
  | .permissionError => "PermissionError"
  | .busy => "Busy"
  | .notFound => "NotFound"
  | .vaultUnavailable => "VaultUnavailable"
  | .forbidden => "Forbidden"
  | .invalidRequest => "InvalidRequest"
  | .invalidPath => "InvalidPath"
  | .vaultDown => "VaultDown"
  | .http _ => "HTTPException"
  | .vaultError name | .osError name | .sqliteError name | .other name => name

/-- `needle in str(exc).lower()`. -/
def Exc.mentions (exn : Exc) (needle : String) : Bool :=
  decide (needle.toList <:+: exn.text.toList.map Char.toLower)

/-- The characters beyond ASCII that are controls, formats, separators or private. -/
def UNPRINTABLE : List (Nat × Nat) :=
  [(0x80, 0xa0), (0xad, 0xad), (0x600, 0x605), (0x61c, 0x61c), (0x6dd, 0x6dd), (0x70f, 0x70f), (0x890, 0x891),
    (0x8e2, 0x8e2), (0x1680, 0x1680), (0x180e, 0x180e), (0x2000, 0x200f), (0x2028, 0x202f), (0x205f, 0x2064),
    (0x2066, 0x206f), (0x3000, 0x3000), (0xe000, 0xf8ff), (0xfeff, 0xfeff), (0xfff9, 0xfffb), (0x110bd, 0x110bd),
    (0x110cd, 0x110cd), (0x13430, 0x1343f), (0x1bca0, 0x1bca3), (0x1d173, 0x1d17a), (0xe0001, 0xe0001),
    (0xe0020, 0xe007f), (0xf0000, 0xffffd), (0x100000, 0x10fffd)]

/-- `str.isprintable` of a character that Unicode assigns. -/
def isPrintable (c : Char) : Bool :=
  32 ≤ c.toNat && c.toNat ≠ 127 && UNPRINTABLE.all fun range => c.toNat < range.1 || range.2 < c.toNat

/-- `repr` of a string. -/
def pyRepr (s : String) : String :=
  let quote := if '\'' ∈ s.toList ∧ '"' ∉ s.toList then '"' else '\''
  let hex (width n : Nat) : List Char := (List.range width).reverse.map fun k => Nat.digitChar (n / 16 ^ k % 16)
  let escape (c : Char) : List Char :=
    if c = '\\' ∨ c = quote then ['\\', c]
    else if c = '\n' then ['\\', 'n']
    else if c = '\r' then ['\\', 'r']
    else if c = '\t' then ['\\', 't']
    else if isPrintable c then [c]
    else if c.toNat < 0x100 then ['\\', 'x'] ++ hex 2 c.toNat
    else if c.toNat < 0x10000 then ['\\', 'u'] ++ hex 4 c.toNat
    else ['\\', 'U'] ++ hex 8 c.toNat
  String.ofList (quote :: s.toList.flatMap escape ++ [quote])

/-- `list(dict.fromkeys(xs))`: the first occurrence of every element, in order. -/
def fromkeys {α : Type} [DecidableEq α] : List α → List α
  | [] => []
  | x :: xs => x :: (fromkeys xs).filter (· ≠ x)

@[simp] theorem mem_fromkeys {α : Type} [DecidableEq α] {x : α} {xs : List α} : x ∈ fromkeys xs ↔ x ∈ xs := by
  induction xs with
  | nil => simp [fromkeys]
  | cons y ys ih =>
    by_cases same : x = y
    · simp [fromkeys, same]
    · simp [fromkeys, same, ih]

theorem fromkeys_nodup {α : Type} [DecidableEq α] (xs : List α) : (fromkeys xs).Nodup := by
  induction xs with
  | nil => exact List.nodup_nil
  | cons x xs ih =>
    rw [fromkeys, List.nodup_cons]
    exact ⟨by simp, ih.filter _⟩

/-- `sorted(set(xs))`. -/
def sortedSet (xs : List String) : List String :=
  (fromkeys xs).insertionSort (· ≤ ·)

@[simp] theorem mem_sortedSet {x : String} {xs : List String} : x ∈ sortedSet xs ↔ x ∈ xs := by
  simp [sortedSet]

/-- Strings of `n` random bytes written in hexadecimal, as `secrets.token_hex(n)` returns them. -/
def Hex (n : Nat) : Type :=
  {digits : List Char // digits.length = 2 * n ∧ ∀ d ∈ digits, d ∈ "0123456789abcdef".toList}

instance (n : Nat) : DecidableEq (Hex n) := inferInstanceAs (DecidableEq (Subtype _))

instance decidableHex (n : Nat) (chars : List Char) :
    Decidable (chars.length = 2 * n ∧ ∀ d ∈ chars, d ∈ "0123456789abcdef".toList) :=
  @instDecidableAnd _ _ _ (List.decidableBAll (· ∈ "0123456789abcdef".toList) chars)

def Hex.text {n : Nat} (hex : Hex n) : String := String.ofList hex.val

/-- The ids `new_grant_id` produces: the role prefix and five random bytes. -/
structure GrantId where
  random : Hex 5
  deriving DecidableEq

def ROLE_PREFIX : String := "vdba_"

def GrantId.text (id : GrantId) : String := ROLE_PREFIX ++ id.random.text

theorem GrantId.text_toList (id : GrantId) : id.text.toList = "vdba_".toList ++ id.random.val := by
  simp [GrantId.text, ROLE_PREFIX, Hex.text, String.toList_append]

theorem GrantId.length_text (id : GrantId) : id.text.toList.length = 15 := by
  rw [text_toList, List.length_append, id.random.property.1]
  rfl

theorem GrantId.text_injective {g h : GrantId} (same : g.text = h.text) : g = h := by
  have lists := congrArg String.toList same
  rw [text_toList, text_toList] at lists
  obtain ⟨⟨digits, _⟩⟩ := g
  obtain ⟨⟨others, _⟩⟩ := h
  have tails : digits = others := List.append_cancel_left lists
  subst tails
  rfl

/-- The name carries the grant's id in front: the grant's role, its helper roles and its accounts. -/
def GrantId.Owns (id : GrantId) (name : String) : Prop := id.text.toList <+: name.toList

instance (id : GrantId) (name : String) : Decidable (id.Owns name) :=
  inferInstanceAs (Decidable (_ <+: _))

/-- No name belongs to two grants. -/
theorem GrantId.Owns.unique {g h : GrantId} {name : String} (left : g.Owns name) (right : h.Owns name) :
    g = h := by
  have same : g.text.toList = h.text.toList :=
    (List.prefix_of_prefix_length_le left right (by rw [length_text, length_text])).eq_of_length
      (by rw [length_text, length_text])
  exact text_injective (String.toList_inj.mp same)

theorem GrantId.owns_self (id : GrantId) : id.Owns id.text := List.prefix_rfl

theorem GrantId.owns_append (id : GrantId) {name : String} (owns : id.Owns name) (suffix : String) :
    id.Owns (name ++ suffix) := by
  unfold Owns
  rw [String.toList_append]
  exact owns.trans (List.prefix_append _ _)

end Vdba
