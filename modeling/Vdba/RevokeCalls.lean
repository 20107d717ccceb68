import Vdba.VaultCalls

namespace Vdba
open Interaction (Triple Stable)

/-- The grant's role has no lease of that id. -/
def NoLease (id : GrantId) (l : String) (w : World) : Prop :=
  ∀ lease ∈ w.vault.leases, lease.role = id.text → lease.id ≠ l

/-- The grant has no token of that accessor. -/
def NoToken (id : GrantId) (a : String) (w : World) : Prop :=
  ∀ token ∈ w.vault.tokens, token.label = id.text → token.accessor ≠ a

/-- The accessor is that of a token which is taken for one of the grant's. -/
def Drops (id : GrantId) (a : String) (w : World) : Prop := ∃ label, w.vault.accessors a = some label ∧ id.Claims label

section revocations
variable {terms : Terms} {j : Job} {limit : Option Nat} {P : World → Prop} {v w : World} {l a : String}

theorem Down.keeps (down : Down j P) : Keeps terms j P :=
  fun v w busy rely _ => down v w (rely.objects j.id busy.1.holds).lessened

theorem NoLease.down : Down j (NoLease j.id l) := fun _ _ lessened none lease member role =>
  none lease (lessened.leases lease role member) role

theorem NoToken.down : Down j (NoToken j.id a) := fun _ _ lessened none token member label =>
  none token (lessened.tokens token label member) label

theorem Drops.down : Down j (Drops j.id a) := by
  rintro v w lessened ⟨label, known, claims⟩
  exact ⟨label, lessened.accessors a label known, claims⟩

theorem Drops.confined (inv : Inv terms w) {id : GrantId} (drops : Drops id a w) : Confined id w (w.dropToken a) := by
  obtain ⟨label, known, claims⟩ := drops
  refine World.dropToken_confined fun token member same => ?_
  have own := inv.tokens token member
  rw [same, known] at own
  cases own
  exact claims

theorem OwnsLease.confined (inv : Inv terms w) {id : GrantId} (owns : id.OwnsLease l) : Confined id w (w.dropLease l) := by
  refine World.dropLease_confined fun lease member same => ?_
  obtain ⟨owner, role, -⟩ := (inv.leases lease member).owns
  have owned := GrantId.ownsLease_of_owns role
  rw [same] at owned
  rwa [owned.unique owns] at role

theorem noLease_dropLease (id : GrantId) (l : String) (w : World) : NoLease id l (w.dropLease l) := by
  intro lease member _
  simpa using List.of_mem_filter member

theorem noToken_dropToken (id : GrantId) (a : String) (w : World) : NoToken id a (w.dropToken a) := by
  intro token member _
  simpa using List.of_mem_filter member

theorem noLease_of_live (id : GrantId) (none : w.liveLease l = none) : NoLease id l w := by
  intro lease member _
  simpa using List.find?_eq_none.mp none lease member

theorem noToken_of_live (id : GrantId) (dead : w.liveAccessor a = false) : NoToken id a w := by
  intro token member _
  simpa using List.any_eq_false.mp dead token member

theorem honest_lease {e : Exc} (honest : World.honestLease l w e = true) (gone : e.leaseGone = true) :
    w.liveLease l = none := by
  simpa [World.honestLease, gone] using honest

theorem honest_accessor {e : Exc} (honest : World.honestAccessor a w e = true) (gone : e.accessorGone = true) :
    w.liveAccessor a = false := by
  simpa [World.honestAccessor, gone] using honest

/-- How a call about an object fails: an answer that the object is gone is true, and where calls go well
there is no other. -/
def GoneFails (terms : Terms) (j : Job) (gone : Exc → Bool) (N P : World → Prop) (e : Exc) (w : World) : Prop :=
  P w ∧ (gone e = true → N w) ∧ (terms.smooth j.id → gone e = true)

/-- Only Vault's own answers say that an object is gone. -/
def Speaks (gone : Exc → Bool) : Prop :=
  ∀ e, gone e = true → e.cls = .invalidPath ∨ e.cls = .invalidRequest ∨ e.cls = .forbidden

theorem speaks_leaseGone : Speaks Exc.leaseGone := by
  intro e gone
  simp only [Exc.leaseGone, Bool.and_eq_true, Bool.or_eq_true, decide_eq_true_eq] at gone
  rcases gone.1 with cls | cls
  · exact Or.inl cls
  · exact Or.inr (Or.inl cls)

theorem speaks_accessorGone : Speaks Exc.accessorGone := by
  intro e gone
  simp only [Exc.accessorGone, Bool.and_eq_true, Bool.or_eq_true, decide_eq_true_eq] at gone
  rcases gone.1 with (cls | cls) | cls
  · exact Or.inl cls
  · exact Or.inr (Or.inl cls)
  · exact Or.inr (Or.inr cls)

theorem speaks_gone : Speaks Exc.gone := by
  intro e gone
  simp only [Exc.gone, Bool.and_eq_true, Bool.or_eq_true, decide_eq_true_eq] at gone
  rcases gone.1 with cls | cls
  · exact Or.inr (Or.inl cls)
  · exact Or.inl cls

section gone
variable {gone : Exc → Bool} {N : World → Prop} {α : Type} {fn : Portal α} {E : α → World → Prop}

theorem GoneFails.keeps (keepsP : Keeps terms j P) (down : Down j N) (e : Exc) :
    Keeps terms j (GoneFails terms j gone N P e) := by
  intro v w busy rely inv held
  refine ⟨keepsP v w busy rely inv held.1, fun said => ?_, held.2.2⟩
  exact down.keeps v w busy rely inv (held.2.1 said)

theorem GoneFails.rough {e : Exc} (held : P w) (rough : ¬terms.smooth j.id) (other : gone e = false) :
    GoneFails terms j gone N P e w := by
  refine ⟨held, fun said => ?_, fun smooth => absurd smooth rough⟩
  rw [other] at said
  cases said

/-- A call whose answer "gone" is taken for done. -/
theorem Works.unlessGone {value : α} (speaks : Speaks gone) (keepsP : Keeps terms j P) (down : Down j N)
    (keepsE : ∀ a, Keeps terms j (E a)) (run : Works terms j limit P fn E (GoneFails terms j gone N P))
    (post : ∀ w, P w → N w → E value w) :
    Works terms j limit P ((Service.call fn).onError fun e => if gone e then .ret value else .raise e) E
      (Fails terms j P) := by
  have silent (e : Exc) (path : e.cls ≠ .invalidPath) (request : e.cls ≠ .invalidRequest) (denied : e.cls ≠ .forbidden) :
      gone e = false := by
    cases said : gone e with
    | false => rfl
    | true =>
      rcases speaks e said with cls | cls | cls
      · exact absurd cls path
      · exact absurd cls request
      · exact absurd cls denied
  have keepsX := fun e => (GoneFails.keeps keepsP down e : Keeps terms j (GoneFails terms j gone N P e))
  have called : Works terms j limit P (Service.call fn) E (GoneFails terms j gone N P) := by
    refine Works.call keepsP keepsE keepsX run (fun _ _ _ failed => failed.1) (fun e w failed cls => ?_)
      fun e w held rough cls => ?_
    · refine GoneFails.rough failed.1 (fun smooth => ?_) (silent _ (by simp [unavailable]) (by simp [unavailable])
        (by simp [unavailable]))
      have said := failed.2.2 smooth
      rcases cls with cls | ⟨name, cls⟩
      · rw [silent e (by rw [cls]; exact nofun) (by rw [cls]; exact nofun) (by rw [cls]; exact nofun)] at said
        cases said
      · rw [silent e (by rw [cls]; exact nofun) (by rw [cls]; exact nofun) (by rw [cls]; exact nofun)] at said
        cases said
    · exact GoneFails.rough held rough (silent e (by rw [cls]; exact nofun) (by rw [cls]; exact nofun)
        (by rw [cls]; exact nofun))
  refine Works.onError called keepsE fun e => ?_
  split
  · rename_i said
    exact Works.ret (keepsX e) fun w failed => post w failed.1 (failed.2.1 said)
  · rename_i other
    exact Works.raise (keepsX e) fun w failed => ⟨failed.1, fun smooth => other (failed.2.2 smooth)⟩

end gone

abbrev LeaseFails (terms : Terms) (j : Job) (l : String) : (World → Prop) → Exc → World → Prop :=
  GoneFails terms j Exc.leaseGone (NoLease j.id l)

abbrev AccessorFails (terms : Terms) (j : Job) (a : String) : (World → Prop) → Exc → World → Prop :=
  GoneFails terms j Exc.accessorGone (NoToken j.id a)

/-- What a search for a lease tells. -/
def LeaseFound (id : GrantId) (l : String) (P : World → Prop) : Option Found → World → Prop
  | some f, w => (∃ lease, ProperLease lease ∧ lease.id = l ∧ f = ⟨lease.db, lease.account, lease.revocation⟩) ∧ P w
  | none, w => P w ∧ NoLease id l w

/-- What a revocation of one of the grant's leases needs of an assertion. -/
structure LeaseProof (terms : Terms) (j : Job) (l : String) (P : World → Prop) : Prop where
  owns : j.id.OwnsLease l
  keeps : Keeps terms j P
  dropped : ∀ w, P w → P (w.dropLease l)
  statement : ∀ lease text v u count, ProperLease lease → lease.id = l → text ∈ lease.revocation → P v →
    v.statement lease.db text lease.account count = some u → P u

theorem LeaseProof.found (proof : LeaseProof terms j l P) (f : Option Found) :
    Keeps terms j (LeaseFound j.id l P f) := by
  cases f with
  | some f => exact (Keeps.const _).and proof.keeps
  | none => exact proof.keeps.and NoLease.down.keeps

theorem leaseFind_works (proof : LeaseProof terms j l P) :
    Works terms j limit P (ask (.leaseFind l)) (LeaseFound j.id l P) (LeaseFails terms j l P) := by
  refine Works.ask proof.keeps proof.found (GoneFails.keeps proof.keeps NoLease.down) fun v c answer u _ held inv executed smooth => ?_
  change exec j.thread (.leaseFind l) c v = some (answer, u) at executed
  cases live : v.liveLease l with
  | some lease =>
    simp only [exec, live] at executed
    obtain ⟨member, same⟩ := World.liveLease_mem live
    rcases settle_cases executed with ⟨rfl, rfl, -⟩ | ⟨e, rfl, fate, effect, honest⟩
    · exact ⟨(Same.refl u).legal, Confined.refl j.id u,
        ⟨lease, inv.leases lease member, same, rfl⟩, held⟩
    · have eq : u = v := by rcases effect with ⟨eq, -⟩ | eq <;> exact eq
      subst eq
      refine ⟨(Same.refl u).legal, Confined.refl j.id u, held, fun gone => ?_, fun smooth' => ?_⟩
      · have none := honest_lease honest gone
        rw [live] at none
        cases none
      · have gone := (smooth smooth').gone executed
        exact gone.1
  | none =>
    simp only [exec, live] at executed
    rcases settle_cases executed with ⟨rfl, rfl, -⟩ | ⟨e, rfl, fate, effect, -⟩
    · exact ⟨(Same.refl u).legal, Confined.refl j.id u, held, noLease_of_live _ live⟩
    · have eq : u = v := by rcases effect with ⟨eq, -⟩ | eq <;> exact eq
      subst eq
      refine ⟨(Same.refl u).legal, Confined.refl j.id u, held, fun _ => noLease_of_live _ live,
        fun smooth' => ?_⟩
      have gone := (smooth smooth').gone executed
      exact gone.1

theorem leaseRemove_works (proof : LeaseProof terms j l P) :
    Works terms j limit P (ask (.leaseRemove l)) (fun _ w => P w ∧ NoLease j.id l w) (LeaseFails terms j l P) := by
  refine Works.ask proof.keeps (fun _ => proof.keeps.and NoLease.down.keeps) (GoneFails.keeps proof.keeps NoLease.down)
    fun v c answer u _ held inv executed smooth => ?_
  have executed : settle c (World.honestLease l) v (v.dropLease l) () = some (answer, u) := executed
  have legal : Legal terms v (v.dropLease l) := World.dropLease_legal l
  have confined : Confined j.id v (v.dropLease l) := OwnsLease.confined inv proof.owns
  have after := proof.dropped v held
  rcases settle_cases executed with ⟨rfl, rfl, -⟩ | ⟨e, rfl, -, ⟨rfl, -⟩ | rfl, honest⟩
  · exact ⟨legal, confined, after, noLease_dropLease _ _ _⟩
  · refine ⟨(Same.refl u).legal, Confined.refl j.id u, held, fun gone => ?_, fun smooth' => ?_⟩
    · exact noLease_of_live _ (honest_lease honest gone)
    · have gone := (smooth smooth').gone executed
      exact gone.1
  · refine ⟨legal, confined, after, fun _ => noLease_dropLease _ _ _, fun smooth' => ?_⟩
    have gone := (smooth smooth').gone executed
    exact gone.1

/-- A synchronous revocation of one of the grant's leases. -/
theorem vaultRevoke_works (proof : LeaseProof terms j l P) :
    Works terms j limit P (vaultRevoke l) (fun _ w => P w ∧ NoLease j.id l w) (LeaseFails terms j l P) := by
  refine (leaseFind_works proof).bind fun found => ?_
  cases found with
  | none => exact Works.ret (proof.found none) fun _ held => held
  | some f =>
    rintro w ⟨busy, ⟨lease, proper, same, rfl⟩, held⟩
    have owner : j.id.Owns lease.account := by
      obtain ⟨id, role, account⟩ := proper.owns
      have owned := GrantId.ownsLease_of_owns role
      rw [same] at owned
      rwa [owned.unique proof.owns] at account
    have effect (text : String) (member : text ∈ lease.revocation) (v u : World) (count : Nat) (held : P v)
        (ran : v.statement lease.db text lease.account count = some u) : Effect terms j v u P := by
      obtain ⟨mild, hole⟩ := proper.statement member
      refine ⟨World.statement_legal ran mild, World.statement_confined ran fun a acts => ?_,
        proof.statement lease text v u count proper same member held ran⟩
      rw [hole a acts, fill_hole]
      exact owner
    have ran := @runStatements_works terms j limit lease.db lease.revocation lease.account (fun _ => P)
      (fun _ => proof.keeps) fun text rest v u count split _ held _ _ ran => by
        obtain ⟨before, split⟩ := split
        exact effect text (by rw [split]; exact List.mem_append_right _ List.mem_cons_self) v u count held ran
    have statements := ran.mono (fun _ held => held) (fun _ _ post => post)
      (fun e w failed => (GoneFails.rough failed.1.choose_spec failed.2.1 failed.2.2 : LeaseFails terms j l P e w))
    exact (statements.bind fun _ => leaseRemove_works proof) w ⟨busy, held⟩

/-- After `revoke_lease` the lease is gone. -/
theorem revokeLease_works (proof : LeaseProof terms j l P) :
    Works terms j limit P (revokeLease l) (fun _ w => P w ∧ NoLease j.id l w) (Fails terms j P) := by
  have keepsE : Keeps terms j fun w => P w ∧ NoLease j.id l w := proof.keeps.and NoLease.down.keeps
  exact Works.unlessGone speaks_leaseGone proof.keeps NoLease.down (fun _ => keepsE) (vaultRevoke_works proof)
    fun _ held none => ⟨held, none⟩

/-- After `revoke_accessor` the token is gone. -/
theorem revokeAccessor_works (keepsP : Keeps terms j P) (drops : ∀ w, P w → Drops j.id a w)
    (dropped : ∀ w, P w → P (w.dropToken a)) :
    Works terms j limit P (revokeAccessor a) (fun _ w => P w ∧ NoToken j.id a w) (Fails terms j P) := by
  have keepsE : Keeps terms j fun w => P w ∧ NoToken j.id a w := keepsP.and NoToken.down.keeps
  have run : Works terms j limit P (ask (.revokeAccessor a)) (fun _ w => P w ∧ NoToken j.id a w)
      (AccessorFails terms j a P) := by
    refine Works.ask keepsP (fun _ => keepsE) (GoneFails.keeps keepsP NoToken.down) fun v c answer u _ held inv executed smooth => ?_
    have executed : settle c (World.honestAccessor a) v (v.dropToken a) () = some (answer, u) := executed
    have legal : Legal terms v (v.dropToken a) := World.dropToken_legal a
    have confined : Confined j.id v (v.dropToken a) := (drops v held).confined inv
    rcases settle_cases executed with ⟨rfl, rfl, -⟩ | ⟨e, rfl, -, ⟨rfl, -⟩ | rfl, honest⟩
    · exact ⟨legal, confined, dropped v held, noToken_dropToken _ _ _⟩
    · refine ⟨(Same.refl u).legal, Confined.refl j.id u, held, fun gone => ?_, fun smooth' => ?_⟩
      · exact noToken_of_live _ (honest_accessor honest gone)
      · have gone := (smooth smooth').gone executed
        exact gone.1
    · refine ⟨legal, confined, dropped v held, fun _ => noToken_dropToken _ _ _, fun smooth' => ?_⟩
      have gone := (smooth smooth').gone executed
      exact gone.1
  exact Works.unlessGone speaks_accessorGone keepsP NoToken.down (fun _ => keepsE) run fun _ held none => ⟨held, none⟩

end revocations
end Vdba
