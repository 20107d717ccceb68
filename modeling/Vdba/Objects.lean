import Vdba.Statements

namespace Vdba

namespace GrantId

theorem owns_helper (id : GrantId) (suffix : Hex 2) : id.Owns (id.helper suffix) :=
  id.owns_append (id.owns_append id.owns_self "_h") suffix.text

/-- No grant is called like a helper. -/
theorem helper_ne (id other : GrantId) (suffix : Hex 2) : id.helper suffix ≠ other.text := by
  intro same
  have lengths := congrArg (fun name : String => name.toList.length) same
  simp only [helper, String.toList_append, List.length_append, length_text] at lengths
  have two : "_h".toList.length = 2 := by decide
  omega

theorem helper_injective (id : GrantId) {suffix other : Hex 2} (same : id.helper suffix = id.helper other) :
    suffix = other := by
  have lists := congrArg String.toList same
  simp only [helper, String.toList_append, Hex.text, String.toList_ofList] at lists
  exact Subtype.ext (List.append_cancel_left lists)

theorem owns_of_account {id : GrantId} {name : String} (owns : id.OwnsAccount name) : id.Owns name := by
  unfold OwnsAccount at owns
  rw [String.toList_append] at owns
  exact (List.prefix_append _ _).trans owns

theorem ownsAccount_suffix (id : GrantId) (rest : String) : id.OwnsAccount (id.text ++ "_" ++ rest) := by
  exact ⟨rest.toList, by simp only [String.toList_append]⟩

theorem OwnsAccount.unique {g h : GrantId} {name : String} (left : g.OwnsAccount name) (right : h.OwnsAccount name) :
    g = h :=
  (owns_of_account left).unique (owns_of_account right)

theorem owns_leaseId (id : GrantId) (key : String) : id.OwnsLease ("database/creds/" ++ id.text ++ "/" ++ key) := by
  exact ⟨("/" ++ key).toList, by simp only [String.toList_append, List.append_assoc]⟩

theorem ownsLease_of_owns {id : GrantId} {lease : Lease} (owns : id.Owns lease.role) : id.OwnsLease lease.id := by
  unfold OwnsLease Lease.id
  simp only [String.toList_append, List.append_assoc]
  exact List.prefix_append_right_inj _ |>.mpr (owns.trans (List.prefix_append _ _))

theorem OwnsLease.unique {g h : GrantId} {lease : String} (left : g.OwnsLease lease) (right : h.OwnsLease lease) :
    g = h := by
  unfold OwnsLease at left right
  have lengths : ("database/creds/" ++ g.text).toList.length = ("database/creds/" ++ h.text).toList.length := by
    simp only [String.toList_append, List.length_append, length_text]
  have same := (List.prefix_of_prefix_length_le left right lengths.le).eq_of_length lengths
  simp only [String.toList_append] at same
  exact text_injective (String.toList_inj.mp (List.append_cancel_left same))

end GrantId

namespace ProperLease
variable {lease : Lease}

theorem owns (proper : ProperLease lease) : ∃ id : GrantId, id.Owns lease.role ∧ id.Owns lease.account := by
  obtain ⟨id, account, ⟨suffix, role, -⟩ | ⟨role, -⟩⟩ := proper
  · exact ⟨id, by rw [role]; exact id.owns_helper suffix, account⟩
  · exact ⟨id, by rw [role]; exact id.owns_self, account⟩

/-- A lease under a helper role has nothing to run. -/
theorem of_helper (proper : ProperLease lease) {id : GrantId} {suffix : Hex 2} {key : String}
    (same : lease.id = "database/creds/" ++ id.helper suffix ++ "/" ++ key) : lease.revocation = ["SELECT 1"] := by
  obtain ⟨owner, -, ⟨-, -, revocation⟩ | ⟨role, -⟩⟩ := proper
  · exact revocation
  · have lists := congrArg String.toList same
    simp only [Lease.id, role, GrantId.helper, String.toList_append, List.append_assoc] at lists
    have tails := List.append_cancel_left lists
    have lengths : owner.text.toList.length = id.text.toList.length := by
      rw [owner.length_text, id.length_text]
    have rest := (List.append_inj tails lengths).2
    have heads := congrArg List.head? rest
    revert heads
    simp

end ProperLease

theorem toList_dashed (name : String) :
    (dashed name).toList = name.toList.map fun c => if c = '_' then '-' else c := by
  simp [dashed]

theorem hex_not_dashed {d : Char} (hex : d ∈ "0123456789abcdef".toList) : d ≠ '_' := by
  rintro rfl
  revert hex
  decide

/-- The spelling of display names does not confuse grants. -/
theorem dashed_owns {g h : GrantId} {label : String} (same : dashed label = dashed g.text) (owns : h.Owns label) :
    h = g := by
  have lists := congrArg String.toList same
  rw [toList_dashed, toList_dashed] at lists
  have pre : (h.text.toList.map fun c => if c = '_' then '-' else c) <+:
      g.text.toList.map fun c => if c = '_' then '-' else c := by
    rw [← lists]
    exact owns.map _
  have equal := pre.eq_of_length (by rw [List.length_map, List.length_map, h.length_text, g.length_text])
  rw [GrantId.text_toList, GrantId.text_toList, List.map_append, List.map_append] at equal
  have digits := List.append_cancel_left equal
  have keep (id : GrantId) : id.random.val.map (fun c => if c = '_' then '-' else c) = id.random.val := by
    conv_rhs => rw [← List.map_id id.random.val]
    refine List.map_congr_left fun d member => ?_
    rw [if_neg (hex_not_dashed (id.random.property.2 d member))]
    rfl
  rw [keep, keep] at digits
  obtain ⟨⟨left, _⟩⟩ := g
  obtain ⟨⟨right, _⟩⟩ := h
  have tails : right = left := digits
  subst tails
  rfl

theorem GrantId.Claims.unique {g h : GrantId} {label : String} (claims : g.Claims label) (owns : h.Owns label) : h = g := by
  rcases claims with same | same
  · exact owns.unique same
  · exact dashed_owns same owns

/-- What is confined to one grant leaves the others alone. -/
theorem Confined.untouched {g h : GrantId} {v w : World} (confined : Confined g v w) (other : h ≠ g) : Untouched h v w := by
  have free {name : String} (owns : h.Owns name) : ¬g.Owns name := fun mine => other (owns.unique mine)
  exact ⟨⟨fun db name owns => confined.accounts db name (free owns), fun db name owns => confined.login db name (free owns),
    fun lease owns => confined.leases lease (free owns),
    fun token owns => confined.tokens token fun claims => other (claims.unique owns),
    fun name owns => confined.roles name (free owns)⟩, fun db name owns => confined.sessions db name (free owns),
    fun db name owns => confined.queries db name (free owns)⟩

theorem displayName_mem (id : GrantId) (token : Token) (label : token.label = id.text) :
    token.displayName ∈ displayNames id.text := by
  rw [Token.displayName, label]
  exact List.mem_cons_self

/-- A token is found under a grant's display names only by the spelling of its own. -/
theorem dashed_of_displayName {id : GrantId} {token : Token} (found : token.displayName ∈ displayNames id.text) :
    dashed token.label = dashed id.text := by
  have underscore : '_' ∈ id.text.toList := by
    rw [GrantId.text_toList]
    exact List.mem_append_left _ (by decide)
  have lists : ∀ name ∈ displayNames id.text, token.displayName = name →
      "token-".toList ++ (dashed token.label).toList = name.toList := by
    intro name _ same
    rw [← same, Token.displayName, String.toList_append]
  simp only [displayNames, List.mem_cons, List.not_mem_nil, or_false] at found
  rcases found with same | same | same
  · have eq := lists _ (by simp [displayNames]) same
    rw [String.toList_append] at eq
    exact String.toList_inj.mp (List.append_cancel_left eq)
  · have eq := lists _ (by simp [displayNames]) same
    rw [String.toList_append] at eq
    rw [← List.append_cancel_left eq, toList_dashed, List.mem_map] at underscore
    obtain ⟨c, -, dash⟩ := underscore
    split at dash
    · cases dash
    · contradiction
  · have eq := lists _ (by simp [displayNames]) same
    rw [GrantId.text_toList] at eq
    have heads := congrArg List.head? eq
    revert heads
    simp

namespace World
variable {terms : Terms} {w : World} {id : GrantId}

theorem setRole_frame (w : World) (name : String) (role : Option Role) : Frame terms w (w.setRole name role) :=
  { Frame.refl w with }

theorem setRole_roles_other (w : World) {name other : String} (role : Option Role) (differs : other ≠ name) :
    (w.setRole name role).vault.roles other = w.vault.roles other := by
  simp [setRole, differs]

@[simp] theorem setRole_roles_self (w : World) (name : String) (role : Option Role) :
    (w.setRole name role).vault.roles name = role := by
  simp [setRole]

theorem setRole_confined {name : String} {role : Option Role} (owns : id.Owns name) :
    Confined id w (w.setRole name role) := by
  refine ⟨fun _ _ _ => Iff.rfl, fun _ _ _ => rfl, fun _ _ _ => rfl, fun _ _ _ => rfl, fun _ _ => Iff.rfl,
    fun _ _ => Iff.rfl, fun other elsewhere => setRole_roles_other w role ?_⟩
  rintro rfl
  exact elsewhere owns

theorem setRole_legal {name : String} {role : Option Role}
    (owner : role = none ∨ ∀ id : GrantId, name = id.text → Alive id w) : Legal terms w (w.setRole name role) := by
  refine ⟨setRole_frame w name role, fun _ member => Or.inl member, fun _ member => Or.inl member,
    fun _ _ member => Or.inl member, fun id none => ?_, fun _ _ _ _ shut => shut⟩
  by_cases same : name = id.text
  · subst same
    rcases owner with rfl | alive
    · exact Or.inl (setRole_roles_self w _ _)
    · exact Or.inr (alive id rfl)
  · exact Or.inl ((setRole_roles_other w role (Ne.symm same)).trans none)

theorem setRole_aside {name : String} {role : Option Role} (owner : role = none ∨ name ≠ id.text) :
    Aside terms id w (w.setRole name role) := by
  refine ⟨⟨fun _ _ _ member => member, fun _ _ _ can => can, fun _ _ held => held, fun _ _ held => held,
    fun _ _ member => member, fun _ _ member => member, fun none => ?_, fun _ _ known => known⟩,
    fun _ _ _ ready => ready, fun _ => Nat.le_refl _⟩
  by_cases same : name = id.text
  · subst same
    rcases owner with rfl | differs
    · exact setRole_roles_self w _ _
    · exact absurd rfl differs
  · exact (setRole_roles_other w role (Ne.symm same)).trans none

theorem addToken_frame {token : Token} (fresh : w.vault.accessors token.accessor = none) :
    Frame terms w (w.addToken token) := by
  refine { Frame.refl w with accessors := fun a label known => ?_ }
  have differs : a ≠ token.accessor := by
    rintro rfl
    rw [fresh] at known
    cases known
  simp [addToken, differs, known]

theorem addToken_untouched {token : Token} (elsewhere : ¬id.Owns token.label) : Untouched id w (w.addToken token) := by
  refine ⟨⟨fun _ _ _ => Iff.rfl, fun _ _ _ => rfl, fun _ _ => Iff.rfl, fun other owns => ?_, fun _ _ => rfl⟩,
    fun _ _ _ => rfl, fun _ _ _ => rfl⟩
  simp only [addToken, List.mem_cons]
  refine ⟨fun member => member.resolve_left ?_, Or.inr⟩
  rintro rfl
  exact elsewhere owns

theorem addToken_confined {token : Token} (owns : id.Owns token.label) : Confined id w (w.addToken token) := by
  refine ⟨fun _ _ _ => Iff.rfl, fun _ _ _ => rfl, fun _ _ _ => rfl, fun _ _ _ => rfl, fun _ _ => Iff.rfl,
    fun other elsewhere => ?_, fun _ _ => rfl⟩
  simp only [addToken, List.mem_cons]
  refine ⟨fun member => member.resolve_left ?_, Or.inr⟩
  rintro rfl
  exact elsewhere (Or.inl owns)

theorem addToken_legal {token : Token} (fresh : w.vault.accessors token.accessor = none)
    (owner : ∀ id : GrantId, token.label = id.text →
      ∃ r, w.row id = some r ∧ r.status.terminal = false ∧ r.tokenAccessor = none) :
    Legal terms w (w.addToken token) := by
  refine ⟨addToken_frame fresh, fun other member => ?_, fun _ member => Or.inl member,
    fun _ _ member => Or.inl member, fun _ none => Or.inl none, fun _ _ _ _ shut => shut⟩
  simp only [addToken, List.mem_cons] at member
  rcases member with rfl | member
  · exact Or.inr ⟨by simp [addToken], owner⟩
  · exact Or.inl member

theorem addToken_aside {token : Token} (fresh : w.vault.accessors token.accessor = none)
    (helper : token.label ≠ id.text) : Aside terms id w (w.addToken token) := by
  refine ⟨⟨fun _ _ _ member => member, fun _ _ _ can => can, fun _ _ held => held, fun _ _ held => held,
    fun _ _ member => member, fun other same member => ?_, fun none => none,
    (addToken_frame fresh : Frame terms _ _).accessors⟩, fun _ _ _ ready => ready, fun _ => Nat.le_refl _⟩
  simp only [addToken, List.mem_cons] at member
  refine member.resolve_left ?_
  rintro rfl
  exact helper same

theorem dropToken_legal (a : String) : Legal terms w (w.dropToken a) :=
  ⟨{ Frame.refl w with }, fun _ member => Or.inl (List.mem_of_mem_filter member), fun _ member => Or.inl member,
    fun _ _ member => Or.inl member, fun _ none => Or.inl none, fun _ _ _ _ shut => shut⟩

theorem dropToken_aside (a : String) : Aside terms id w (w.dropToken a) :=
  ⟨⟨fun _ _ _ member => member, fun _ _ _ can => can, fun _ _ held => held, fun _ _ held => held,
    fun _ _ member => member, fun _ _ member => List.mem_of_mem_filter member, fun none => none,
    fun _ _ known => known⟩, fun _ _ _ ready => ready, fun _ => Nat.le_refl _⟩

theorem dropToken_untouched {a : String} (elsewhere : ∀ token ∈ w.vault.tokens, token.accessor = a →
    ¬id.Owns token.label) : Untouched id w (w.dropToken a) := by
  refine ⟨⟨fun _ _ _ => Iff.rfl, fun _ _ _ => rfl, fun _ _ => Iff.rfl, fun token owns => ?_, fun _ _ => rfl⟩,
    fun _ _ _ => rfl, fun _ _ _ => rfl⟩
  refine ⟨fun member => List.mem_of_mem_filter member, fun member => List.mem_filter.mpr ⟨member, ?_⟩⟩
  simp only [ne_eq, decide_not, Bool.not_eq_eq_eq_not, Bool.not_true, decide_eq_false_iff_not]
  exact fun same => elsewhere token member same owns

theorem dropToken_confined {a : String} (claims : ∀ token ∈ w.vault.tokens, token.accessor = a → id.Claims token.label) :
    Confined id w (w.dropToken a) := by
  refine ⟨fun _ _ _ => Iff.rfl, fun _ _ _ => rfl, fun _ _ _ => rfl, fun _ _ _ => rfl, fun _ _ => Iff.rfl,
    fun token elsewhere => ⟨fun member => List.mem_of_mem_filter member, fun member => ?_⟩, fun _ _ => rfl⟩
  refine List.mem_filter.mpr ⟨member, ?_⟩
  simp only [ne_eq, decide_not, Bool.not_eq_eq_eq_not, Bool.not_true, decide_eq_false_iff_not]
  exact fun same => elsewhere (claims token member same)

theorem dropToken_shrunk (t : Nat) (a : String) : Shrunk terms t id w (w.dropToken a) :=
  ⟨(dropToken_aside a : Aside terms _ _ _).toLessened, fun _ _ _ _ _ _ ready => ready, fun _ _ member => member,
    fun _ _ member => List.mem_of_mem_filter member, fun _ _ => rfl, fun _ member => member⟩

theorem addLease_frame (w : World) (lease : Lease) : Frame terms w (w.addLease lease) :=
  { Frame.refl w with }

theorem addLease_confined {lease : Lease} (owns : id.Owns lease.role) : Confined id w (w.addLease lease) := by
  refine ⟨fun _ _ _ => Iff.rfl, fun _ _ _ => rfl, fun _ _ _ => rfl, fun _ _ _ => rfl, fun other elsewhere => ?_,
    fun _ _ => Iff.rfl, fun _ _ => rfl⟩
  simp only [addLease, List.mem_cons]
  refine ⟨fun member => member.resolve_left ?_, Or.inr⟩
  rintro rfl
  exact elsewhere owns

theorem addLease_legal {lease : Lease} (proper : ProperLease lease)
    (owner : ∀ id : GrantId, lease.role = id.text → Alive id w) : Legal terms w (w.addLease lease) := by
  refine ⟨addLease_frame w lease, fun _ member => Or.inl member, fun other member => ?_,
    fun _ _ member => Or.inl member, fun _ none => Or.inl none, fun _ _ _ _ shut => shut⟩
  simp only [addLease, List.mem_cons] at member
  rcases member with rfl | member
  · exact Or.inr ⟨proper, owner⟩
  · exact Or.inl member

theorem addLease_aside {lease : Lease} (helper : lease.role ≠ id.text) : Aside terms id w (w.addLease lease) := by
  refine ⟨⟨fun _ _ _ member => member, fun _ _ _ can => can, fun _ _ held => held, fun _ _ held => held,
    fun other same member => ?_, fun _ _ member => member, fun none => none, fun _ _ known => known⟩,
    fun _ _ _ ready => ready, fun _ => Nat.le_refl _⟩
  simp only [addLease, List.mem_cons] at member
  refine member.resolve_left ?_
  rintro rfl
  exact helper same

theorem closed_legal {o : Opened} {key : String} {secret : Secret} {duration : Nat} (proper : ProperLease (lease o key))
    (owner : ∀ id : GrantId, o.role = id.text → Alive id w) : Legal terms w (w.closed o key secret duration) := by
  have legal : Legal terms w (w.addLease (lease o key)) := addLease_legal proper owner
  exact { legal with reads := fun read member => List.mem_cons_of_mem _ member }

theorem closed_confined {o : Opened} {key : String} {secret : Secret} {duration : Nat} (owns : id.Owns o.role) :
    Confined id w (w.closed o key secret duration) := by
  have confined : Confined id w (w.addLease (lease o key)) := addLease_confined owns
  exact { confined with }

theorem closed_aside {o : Opened} {key : String} {secret : Secret} {duration : Nat} (helper : o.role ≠ id.text) :
    Aside terms id w (w.closed o key secret duration) := by
  have aside : Aside terms id w (w.addLease (lease o key)) := addLease_aside helper
  exact { aside with }

theorem dropLease_legal (l : String) : Legal terms w (w.dropLease l) :=
  ⟨{ Frame.refl w with }, fun _ member => Or.inl member, fun _ member => Or.inl (List.mem_of_mem_filter member),
    fun _ _ member => Or.inl member, fun _ none => Or.inl none, fun _ _ _ _ shut => shut⟩

theorem dropLease_aside (l : String) : Aside terms id w (w.dropLease l) :=
  ⟨⟨fun _ _ _ member => member, fun _ _ _ can => can, fun _ _ held => held, fun _ _ held => held,
    fun _ _ member => List.mem_of_mem_filter member, fun _ _ member => member, fun none => none,
    fun _ _ known => known⟩, fun _ _ _ ready => ready, fun _ => Nat.le_refl _⟩

theorem dropLease_untouched {l : String} (elsewhere : ∀ lease ∈ w.vault.leases, lease.id = l →
    ¬id.Owns lease.role) : Untouched id w (w.dropLease l) := by
  refine ⟨⟨fun _ _ _ => Iff.rfl, fun _ _ _ => rfl, fun lease owns => ?_, fun _ _ => Iff.rfl, fun _ _ => rfl⟩,
    fun _ _ _ => rfl, fun _ _ _ => rfl⟩
  refine ⟨fun member => List.mem_of_mem_filter member, fun member => List.mem_filter.mpr ⟨member, ?_⟩⟩
  simp only [ne_eq, decide_not, Bool.not_eq_eq_eq_not, Bool.not_true, decide_eq_false_iff_not]
  exact fun same => elsewhere lease member same owns

theorem dropLease_confined {l : String} (owned : ∀ lease ∈ w.vault.leases, lease.id = l → id.Owns lease.role) :
    Confined id w (w.dropLease l) := by
  refine ⟨fun _ _ _ => Iff.rfl, fun _ _ _ => rfl, fun _ _ _ => rfl, fun _ _ _ => rfl,
    fun lease elsewhere => ⟨fun member => List.mem_of_mem_filter member, fun member => ?_⟩, fun _ _ => Iff.rfl,
    fun _ _ => rfl⟩
  refine List.mem_filter.mpr ⟨member, ?_⟩
  simp only [ne_eq, decide_not, Bool.not_eq_eq_eq_not, Bool.not_true, decide_eq_false_iff_not]
  exact fun same => elsewhere (owned lease member same)

theorem dropLease_shrunk (t : Nat) (l : String) : Shrunk terms t id w (w.dropLease l) :=
  ⟨(dropLease_aside l : Aside terms _ _ _).toLessened, fun _ _ _ _ _ _ ready => ready,
    fun _ _ member => List.mem_of_mem_filter member, fun _ _ member => member, fun _ _ => rfl, fun _ member => member⟩

end World
end Vdba
