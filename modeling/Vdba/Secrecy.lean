import Vdba.Interaction.Relate
import Vdba.Admission

namespace Vdba
open Interaction (Paired Outcomes Pairing Mirror Pool)

def Issued.masked (result : Issued) : Issued := { result with password := ⟨""⟩ }

/-- The body without the password that an issue returns. -/
def Body.masked : Body → Body
  | .issued result => .issued result.masked
  | .indexPage page => .indexPage { page with result := page.result.map Issued.masked }
  | body => body

def Response.masked (response : Response) : Response := { response with body := response.body.masked }

def Token.masked (token : Token) : Token := { token with secret := ⟨""⟩ }

def CredsRead.masked (read : CredsRead) : CredsRead := { read with secret := ⟨""⟩ }

def Creds.masked (creds : Creds) : Creds := { creds with password := ⟨""⟩ }

/-- The world without the tokens of Vault and the passwords it has made. -/
def World.masked (w : World) : World :=
  { w with
    vault := { w.vault with tokens := w.vault.tokens.map Token.masked }
    credsLog := w.credsLog.map CredsRead.masked
    book := { w.book with told := w.book.told.map Response.masked } }

/-- The calls that neither take nor return a token or a password of Vault's, nor answer a request. The token of a
session is no such secret: it comes from the log-in of its user. -/
def Op.openly : Op → Bool
  | .createToken .. | .introspectCredentials _ | .credsOpen .. | .credsClose _ | .connect .. | .respond _ => false
  | _ => true

/-- The calls of two runs that have got other secrets. -/
inductive Twin
  | openly (op : Op) (plain : op.openly = true)
  | createToken (ttl : Int) (label : String)
  | introspectCredentials (db : DbType)
  | credsOpen (token token' : Secret) (role : String)
  | credsClose (o : Opened)
  | connect (db : DbType) (user : String) (password password' : Secret)
  | respond (response response' : Response) (same : response.masked = response'.masked)

namespace Twin

def left : Twin → Op
  | openly op _ => op
  | createToken ttl label => .createToken ttl label
  | introspectCredentials db => .introspectCredentials db
  | credsOpen token _ role => .credsOpen token role
  | credsClose o => .credsClose o
  | connect db user password _ => .connect db user password
  | respond response _ _ => .respond response

def right : Twin → Op
  | openly op _ => op
  | createToken ttl label => .createToken ttl label
  | introspectCredentials db => .introspectCredentials db
  | credsOpen _ token' role => .credsOpen token' role
  | credsClose o => .credsClose o
  | connect db user _ password' => .connect db user password'
  | respond _ response' _ => .respond response'

/-- The answers are the same but for the secrets. -/
def values : (k : Twin) → Ans k.left → Ans k.right → Prop
  | openly _ _ => fun a a' => a = a'
  | createToken .. => fun (a a' : Secret × String) => a.2 = a'.2
  | introspectCredentials _ => fun (a a' : String × Secret) => a.1 = a'.1
  | credsOpen .. => fun (a a' : Opened) => a = a'
  | credsClose _ => fun (a a' : Option Creds) => a.map Creds.masked = a'.map Creds.masked
  | connect .. => fun (a a' : Unit) => a = a'
  | respond .. => fun (a a' : Unit) => a = a'

end Twin

def twins : Pairing calls := ⟨Twin, Twin.left, Twin.right, Twin.values⟩

/-- The call logs a user in: the token it returns is the user's. -/
def Op.logsIn : Op → Bool
  | .userpassLogin .. => true
  | _ => false

/-- The event without the secrets of the tokens that appear. -/
def Event.masked : Event → Event
  | .foreignTokens tokens => .foreignTokens (tokens.map Token.masked)
  | event => event

/-- The outside decides the same but for the secrets of Vault's. -/
def Choice.Like (op : Op) (c c' : Choice) : Prop := c' = { c with secret := c'.secret } ∧ (op.logsIn = true → c' = c)

section masks
variable {c : Choice} {w w' v v' u u' : World} {t : Nat} {op : Op}

theorem settle_masked {α : Type} {honest : World → Exc → Bool} {value : α} {x : Except Exc α}
    (same : ∀ w e, honest (World.masked w) e = honest w e) (done : settle c honest w w' value = some (x, u)) :
    settle c honest w.masked w'.masked value = some (x, u.masked) := by
  unfold settle at done ⊢
  split at done
  · cases done
    rfl
  · simp only [Option.ite_none_right_eq_some, Option.some.injEq, Prod.mk.injEq] at done
    obtain ⟨possible, rfl, rfl⟩ := done
    simp only [same, possible, if_true]
  · simp only [Option.ite_none_right_eq_some, Option.some.injEq, Prod.mk.injEq] at done
    obtain ⟨possible, rfl, rfl⟩ := done
    simp only [same, possible, if_true]

theorem refuse_masked {α : Type} {honest : World → Exc → Bool} {x : Except Exc α}
    (same : ∀ w e, honest (World.masked w) e = honest w e) (done : refuse c honest w = some (x, u)) :
    refuse c honest w.masked = some (x, u.masked) := by
  unfold refuse at done ⊢
  split at done
  · simp only [Option.ite_none_right_eq_some, Option.some.injEq, Prod.mk.injEq] at done
    obtain ⟨possible, rfl, rfl⟩ := done
    simp only [same, possible, if_true]
  · cases done

theorem settleIf_masked {α : Type} {honest : World → Exc → Bool} {possible : Bool} {value : α} {x : Except Exc α}
    (same : ∀ w e, honest (World.masked w) e = honest w e)
    (done : settleIf possible c honest w w' value = some (x, u)) :
    settleIf possible c honest w.masked w'.masked value = some (x, u.masked) := by
  cases possible with
  | true => exact settle_masked same done
  | false => exact refuse_masked same done

theorem anyExc_masked (w : World) (e : Exc) : anyExc w.masked e = anyExc w e := rfl

theorem tokens_any (w : World) (accessor : String) : w.masked.liveAccessor accessor = w.liveAccessor accessor :=
  List.any_map ..

theorem tokens_find (w : World) (accessor : String) :
    w.masked.vault.tokens.find? (·.accessor = accessor) =
      (w.vault.tokens.find? (·.accessor = accessor)).map Token.masked := List.find?_map ..

theorem tokens_accessors (w : World) : w.masked.vault.tokens.map (·.accessor) = w.vault.tokens.map (·.accessor) :=
  List.map_map ..

theorem dropToken_masked (w : World) (accessor : String) : (w.dropToken accessor).masked = w.masked.dropToken accessor := by
  have tokens : (w.vault.tokens.filter (·.accessor ≠ accessor)).map Token.masked =
      (w.vault.tokens.map Token.masked).filter (·.accessor ≠ accessor) := by
    rw [List.filter_map]
    rfl
  unfold World.dropToken World.masked
  simp only [tokens]

theorem noteWrite_masked (w : World) (t : Nat) (id : GrantId) (fields : GrantFields) :
    (w.noteWrite t id fields).masked = w.masked.noteWrite t id fields := by
  unfold World.noteWrite
  split <;> rfl

theorem marked_masked (w : World) (t : Nat) (m : Mark) : (w.marked t m).masked = w.masked.marked t m := by
  cases m <;> rfl

theorem statement_masked (w : World) (db : DbType) (text account : String) (count : Nat) :
    w.masked.statement db text account count = (w.statement db text account count).map World.masked := by
  unfold World.statement
  cases act text with
  | none => rfl
  | some a =>
    dsimp only
    rw [Option.map_map]
    rfl

/-- A call that carries no secret does the same in a world whose secrets are others. -/
theorem exec_masked {x : Except Exc (Ans op)} (plain : op.openly = true) (executed : exec t op c w = some (x, u)) :
    exec t op c w.masked = some (x, u.masked) := by
  have settled {α : Type} {honest : World → Exc → Bool} {v : World} {value : α} {x : Except Exc α}
      (same : ∀ w e, honest (World.masked w) e = honest w e) (done : settle c honest w v value = some (x, u)) :
      settle c honest w.masked v.masked value = some (x, u.masked) := settle_masked same done
  have lookups (accessor : String) (w : World) (e : Exc) :
      World.honestLookup accessor w.masked e = World.honestLookup accessor w e := by
    rw [World.honestLookup, tokens_any]
    rfl
  cases op
  case createToken | introspectCredentials | credsOpen | credsClose | connect | respond => cases plain
  case mark m =>
    cases executed
    rw [marked_masked]
    rfl
  case now | sleep | tokenUrlsafe | bogusArmed | inflightAdd | inflightDiscard | inflightHas | slotRelease
    | lockRelease => cases executed; rfl
  case tokenHex n =>
    simp only [exec, Option.dite_none_right_eq_some, Option.some.injEq, Prod.mk.injEq] at executed ⊢
    obtain ⟨digits, rfl, rfl⟩ := executed
    exact ⟨digits, rfl, rfl⟩
  case setOrder xs =>
    simp only [exec, Option.ite_none_right_eq_some, Option.some.injEq, Prod.mk.injEq] at executed ⊢
    obtain ⟨perm, rfl, rfl⟩ := executed
    exact ⟨perm, rfl, rfl⟩
  case lockAcquire db id caller =>
    have locks : w.masked.locks db = w.locks db := rfl
    simp only [exec, locks] at executed ⊢
    split at executed
    · cases executed
      cases caller <;> rfl
    · simp only [Option.ite_none_right_eq_some, Option.some.injEq, Prod.mk.injEq] at executed ⊢
      obtain ⟨late, rfl, rfl⟩ := executed
      exact ⟨late, rfl, rfl⟩
  case slotAcquire kind =>
    have taken : w.masked.taken kind = w.taken kind := rfl
    simp only [exec, taken] at executed ⊢
    split at executed
    · rename_i free
      cases executed
      rw [if_pos free]
      rfl
    · rename_i full
      cases executed
      rw [if_neg full]
  case updateGrant now id fields =>
    have done := settled anyExc_masked executed
    rw [noteWrite_masked] at done
    exact done
  case lookupAccessor accessor =>
    simp only [exec, tokens_find] at executed ⊢
    cases found : w.vault.tokens.find? (·.accessor = accessor) with
    | none =>
      simp only [found] at executed
      exact refuse_masked anyExc_masked executed
    | some token =>
      simp only [found] at executed
      exact settled (lookups accessor) executed
  case listAccessors =>
    have empty : w.masked.vault.tokens.isEmpty = w.vault.tokens.isEmpty := by
      cases tokens : w.vault.tokens <;> simp [World.masked, tokens]
    simp only [exec, empty, tokens_accessors] at executed ⊢
    split at executed
    · rename_i empty
      rw [if_pos empty]
      exact settled anyExc_masked executed
    · rename_i tokens
      rw [if_neg tokens]
      exact settleIf_masked anyExc_masked executed
  case revokeAccessor accessor =>
    have done := settled (fun w e => by rw [World.honestAccessor, tokens_any]; rfl) executed
    rw [dropToken_masked] at done
    exact done
  case insertGrant | accountsWithPrefix => exact settleIf_masked anyExc_masked executed
  case listLeases role =>
    have leases : w.masked.vault.leases = w.vault.leases := rfl
    simp only [exec, leases] at executed ⊢
    split at executed
    · rename_i empty
      rw [if_pos empty]
      exact settled anyExc_masked executed
    · rename_i keys
      rw [if_neg keys]
      exact settleIf_masked anyExc_masked executed
  case leaseFind id =>
    have live : w.masked.liveLease id = w.liveLease id := rfl
    simp only [exec, live] at executed ⊢
    cases found : w.liveLease id with
    | none =>
      simp only [found] at executed
      exact settled anyExc_masked executed
    | some lease =>
      simp only [found] at executed
      exact settled (fun _ _ => rfl) executed
  case leaseRemove id => exact settled (fun _ _ => rfl) executed
  case runStatement db text account =>
    simp only [exec, statement_masked] at executed ⊢
    cases ran : w.statement db text account c.count with
    | none =>
      simp only [ran] at executed
      exact refuse_masked (fun _ _ => rfl) executed
    | some w' =>
      simp only [ran] at executed
      exact settled (fun _ _ => rfl) executed
  case client | relogin => exact settled (fun _ _ => rfl) executed
  all_goals exact settled anyExc_masked executed

/-- No other call reads the secret of a choice. -/
theorem exec_secret (plain : op.openly = true) (user : op.logsIn = false) (secret : Secret) :
    exec t op { c with secret := secret } w = exec t op c w := by
  cases op
  case userpassLogin => cases user
  case createToken | introspectCredentials | credsClose => cases plain
  all_goals rfl

/-- A call that is possible in both runs goes the same way in both. -/
theorem settleIf_twins {α α' : Type} {R : α → α' → Prop} {c' : Choice} {possible possible' : Bool} {a : α} {a' : α'}
    {x : Except Exc α} {x' : Except Exc α'} (fate : c'.fate = c.fate) (worlds : w.masked = w'.masked)
    (effects : v.masked = v'.masked) (values : R a a')
    (done : settleIf possible c anyExc w v a = some (x, u))
    (done' : settleIf possible' c' anyExc w' v' a' = some (x', u')) : Outcomes R x x' ∧ u.masked = u'.masked := by
  unfold settleIf settle refuse at done done'
  rw [fate] at done'
  cases at_fate : c.fate with
  | ok =>
    simp only [at_fate] at done done'
    cases possible <;> cases possible' <;> cases done <;> cases done'
    exact ⟨.ok values, effects⟩
  | fail exn =>
    simp only [at_fate, anyExc, if_true, ite_self, Option.some.injEq, Prod.mk.injEq] at done done'
    obtain ⟨rfl, rfl⟩ := done
    obtain ⟨rfl, rfl⟩ := done'
    exact ⟨.error exn, worlds⟩
  | lost exn =>
    simp only [at_fate, anyExc, Bool.true_and, decide_eq_true_eq] at done done'
    cases possible <;> cases possible' <;> simp only [Bool.false_eq_true, if_true, if_false] at done done' <;>
      try (first | cases done | cases done')
    simp only [Option.ite_none_right_eq_some, Option.some.injEq, Prod.mk.injEq] at done done'
    obtain ⟨-, rfl, rfl⟩ := done
    obtain ⟨-, rfl, rfl⟩ := done'
    exact ⟨.error exn, effects⟩

/-- A call that is made in two runs whose secrets differ is answered alike. -/
theorem exec_twins {k : Twin} {c' : Choice} {x : Except Exc (Ans k.left)} {x' : Except Exc (Ans k.right)}
    (worlds : w.masked = w'.masked) (choices : Choice.Like k.left c c') (executed : exec t k.left c w = some (x, v))
    (executed' : exec t k.right c' w' = some (x', v')) : Outcomes k.values x x' ∧ v.masked = v'.masked := by
  have fate : c'.fate = c.fate := by rw [choices.1]
  have key : c'.key = c.key := by rw [choices.1]
  cases k
  case openly op plain =>
    have executed' : exec t op c w' = some (x', v') := by
      rcases Bool.eq_false_or_eq_true op.logsIn with user | other
      · rw [← choices.2 user]
        exact executed'
      · rw [← exec_secret plain other c'.secret, ← choices.1]
        exact executed'
    have first := exec_masked plain executed
    have second := exec_masked plain executed'
    rw [worlds, second] at first
    have pair := Option.some.inj first
    have answers : x' = x := congrArg Prod.fst pair
    subst answers
    exact ⟨.same x', (congrArg Prod.snd pair).symm⟩
  case createToken ttl label =>
    have tokens : (w.addToken ⟨c.key, c.secret, label⟩).masked = (w'.addToken ⟨c'.key, c'.secret, label⟩).masked := by
      change w.masked.addToken ⟨c.key, ⟨""⟩, label⟩ = w'.masked.addToken ⟨c'.key, ⟨""⟩, label⟩
      rw [worlds, key]
    exact settleIf_twins (R := fun a a' : Secret × String => a.2 = a'.2) fate worlds tokens key.symm executed executed'
  case introspectCredentials db =>
    have executed : settleIf true c anyExc w w (c.key, c.secret) = some (x, v) := executed
    have executed' : settleIf true c' anyExc w' w' (c'.key, c'.secret) = some (x', v') := executed'
    exact settleIf_twins (R := fun a a' : String × Secret => a.1 = a'.1) fate worlds worlds key.symm executed executed'
  case credsOpen token token' role =>
    have roles : w.masked.vault.roles role = w'.masked.vault.roles role :=
      congrArg (fun w => w.vault.roles role) worlds
    have chars : c'.chars = c.chars := by rw [choices.1]
    change exec t (.credsOpen token role) c w = some (x, v) at executed
    change exec t (.credsOpen token' role) c' w' = some (x', v') at executed'
    simp only [exec] at executed executed'
    cases found : w.vault.roles role with
    | none =>
      have found' : w'.vault.roles role = none := roles.symm.trans found
      simp only [found, found'] at executed executed'
      have nothing (a : Opened) : Outcomes (fun a a' : Opened => a = a') x x' ∧ v.masked = v'.masked :=
        settleIf_twins fate worlds worlds (rfl : a = a) (show settleIf false c anyExc w w a = _ from executed)
          (show settleIf false c' anyExc w' w' a = _ from executed')
      exact nothing ⟨"", .postgres, [], [], ""⟩
    | some r =>
      have found' : w'.vault.roles role = some r := roles.symm.trans found
      simp only [found, found'] at executed executed'
      have opened : World.opened role r c.chars = World.opened role r c'.chars := by rw [chars]
      exact settleIf_twins (R := fun a a' : Opened => a = a') fate worlds worlds opened executed executed'
  case credsClose o =>
    have flag : c'.flag = c.flag := by rw [choices.1]
    have count : c'.count = c.count := by rw [choices.1]
    have closed : (w.closed o c.key c.secret c.count).masked = (w'.closed o c'.key c'.secret c'.count).masked := by
      change w.masked.closed o c.key ⟨""⟩ c.count = w'.masked.closed o c'.key ⟨""⟩ c'.count
      rw [worlds, key, count]
    refine settleIf_twins (R := fun a a' : Option Creds => a.map Creds.masked = a'.map Creds.masked) fate worlds
      closed ?_ executed executed'
    rw [flag, key, count]
    cases c.flag <;> rfl
  case connect db user password password' =>
    have executed : settleIf true c anyExc w w () = some (x, v) := executed
    have executed' : settleIf true c' anyExc w' w' () = some (x', v') := executed'
    exact settleIf_twins (R := fun a a' : Unit => a = a') fate worlds worlds rfl executed executed'
  case respond response response' same =>
    cases executed
    cases executed'
    refine ⟨.ok rfl, ?_⟩
    change { w.masked with book := w.masked.book.tells response.masked } =
      { w'.masked with book := w'.masked.book.tells response'.masked }
    rw [worlds, same]

theorem addForeign_masked (tokens : List Token) (w : World) :
    (Event.addForeign tokens w).masked = Event.addForeign (tokens.map Token.masked) w.masked := by
  induction tokens generalizing w with
  | nil => rfl
  | cons token tokens ih =>
    have foreign : Event.foreign w.masked token.masked = Event.foreign w token := rfl
    rw [Event.addForeign, List.map_cons, Event.addForeign, ih, foreign]
    split <;> rfl

theorem happen_masked (event : Event) (w : World) :
    event.masked.happen w.masked = (event.happen w).map World.masked := by
  cases event
  case tick | setClock | logout | endQuery | leaseGone => rfl
  case login db account =>
    have may : Event.canLogin w.masked db account = Event.canLogin w db account := rfl
    simp only [Event.masked, Event.happen, may]
    split <;> rfl
  case startQuery account =>
    have dbs : w.masked.dbs = w.dbs := rfl
    simp only [Event.masked, Event.happen, dbs]
    split <;> rfl
  case leaseText id text count =>
    have live : w.masked.liveLease id = w.liveLease id := rfl
    simp only [Event.masked, Event.happen, live]
    cases w.liveLease id with
    | none => rfl
    | some lease =>
      dsimp only
      split
      · exact statement_masked _ _ _ _ _
      · rfl
  case tokenGone accessor =>
    simp only [Event.masked, Event.happen, Option.map_some, dropToken_masked]
  case foreignTokens tokens => simp only [Event.masked, Event.happen, Option.map_some, addForeign_masked]

end masks

/-- Two runs that differ in the secrets of Vault's only. -/
def mirror : Mirror twins machine where
  worlds w w' := w.masked = w'.masked
  choices := Choice.Like
  events event event' := event.masked = event'.masked
  exec := exec_twins
  env {event event' w w' v v'} worlds events happened happened' := by
    have first : event.masked.happen w.masked = some v.masked := by
      rw [happen_masked, show event.happen w = some v from happened]
      rfl
    have second : event'.masked.happen w'.masked = some v'.masked := by
      rw [happen_masked, show event'.happen w' = some v' from happened']
      rfl
    rw [worlds, events, second] at first
    exact (Option.some.inj first).symm
  reset worlds := congrArg World.reset worlds

/-- Two runs of the code go the same way, and return the same. -/
def Discreet {α : Type} (p : Portal α) : Prop := Paired twins (@Eq α) p p

namespace Discreet
variable {α β : Type} {p : Portal α}

theorem ask (op : Op) (plain : op.openly = true) : Discreet (ask op) := Paired.perform (L := twins) (.openly op plain)

theorem lift (result : Except Exc α) : Discreet (lift result) := Paired.ofExcept (.same result)

theorem ret (value : α) : Discreet (.ret value : Portal α) := Paired.ret rfl

theorem raise (exn : Exc) : Discreet (.raise exn : Portal α) := Paired.raise exn

theorem next {f : α → Portal β} (first : Discreet p) (rest : ∀ a, Discreet (f a)) : Discreet (p.bind f) :=
  Paired.next first rest

theorem attempt {f : Except Exc α → Portal β} (first : Discreet p) (rest : ∀ outcome, Discreet (f outcome)) :
    Discreet (p.attempt.bind f) := by
  refine (Paired.attempt first).bind fun x x' outcomes => ?_
  cases outcomes with
  | ok same => exact same ▸ rest _
  | error exn => exact rest _

theorem onError {handler : Exc → Portal α} (first : Discreet p) (handled : ∀ exn, Discreet (handler exn)) :
    Discreet (p.onError handler) := Paired.onError first handled

theorem finally_ {last : Portal Unit} (first : Discreet p) (ended : Discreet last) : Discreet (p.finally_ last) :=
  Paired.finally_ first ended

theorem forEach {xs : List α} {f : α → Portal Unit} (round : ∀ x, Discreet (f x)) :
    Discreet (Interaction.Prog.forEach xs f) := Paired.forEach round

theorem cond {c : Prop} [Decidable c] {p q : Portal α} (yes : Discreet p) (no : Discreet q) :
    Discreet (if c then p else q) := by
  split
  · exact yes
  · exact no

theorem quietly {p : Portal Unit} (discreet : Discreet p) : Discreet (quietly p) :=
  discreet.onError fun _ => ret ()

theorem forGiven {text : Option String} {f : String → Portal Unit} (discreet : ∀ s, Discreet (f s)) :
    Discreet (forGiven text f) := by
  unfold Vdba.forGiven
  split
  · exact discreet _
  · exact ret ()

end Discreet

section vault
variable {α : Type} {R : α → α → Prop}

theorem call_twins {fn fn' : Portal α} (related : Paired twins R fn fn') :
    Paired twins R (Service.call fn) (Service.call fn') := by
  refine Paired.onError (Paired.next (Discreet.ask .client rfl) fun _ => related) fun exn => ?_
  cases exn.cls
  case forbidden => exact Paired.next (Discreet.ask .relogin rfl) fun _ => related
  all_goals exact .raise _

theorem Discreet.call {fn : Portal α} (discreet : Discreet fn) : Discreet (Service.call fn) := call_twins discreet

theorem discreet_writeRole (role : String) (db : DbType) (creation revocation : List String) (ttl : Int) :
    Discreet (writeRole role db creation revocation ttl) := (Discreet.ask _ rfl).call

theorem discreet_deleteRole (role : String) : Discreet (deleteRole role) := (Discreet.ask _ rfl).call

/-- The token is another, its accessor is the same. -/
theorem createGrantToken_twins (ttl : Int) (label : String) :
    Paired twins (fun a a' : Secret × String => a.2 = a'.2) (createGrantToken ttl label) (createGrantToken ttl label) :=
  call_twins (Paired.perform (L := twins) (.createToken (ttl + TOKEN_GRACE_SECONDS) label))

theorem discreet_connect (db : DbType) : Discreet (connect_ db) := by
  have logs (db : DbType) : Discreet ((introspectCredentials db).bind fun a => ask (.connect db a.1 a.2)) := by
    have manager : Paired twins (fun a a' : String × Secret => a.1 = a'.1) (introspectCredentials db)
        (introspectCredentials db) := call_twins (Paired.perform (L := twins) (.introspectCredentials db))
    refine manager.bind fun a a' same => ?_
    rw [← same]
    exact Paired.perform (L := twins) (.connect db a.1 a.2 a'.2)
  cases db
  · exact logs .postgres
  · exact logs .clickhouse

theorem discreet_catalog (db : DbType) : Discreet (catalog db) := by
  cases db
  · exact (discreet_connect .postgres).next fun _ => (Discreet.ask _ rfl).next fun _ =>
      (Discreet.ask _ rfl).next fun _ => Discreet.ret _
  · exact (discreet_connect .clickhouse).next fun _ => (Discreet.ask _ rfl).next fun _ => Discreet.ret _

theorem discreet_findAccounts (db : DbType) (id : GrantId) : Discreet (findAccounts db id) :=
  (discreet_connect db).next fun _ => Discreet.ask _ rfl

theorem discreet_leftoverUsers (db : DbType) : Discreet (leftoverUsers db) :=
  (discreet_connect db).next fun _ => Discreet.ask _ rfl

theorem discreet_pgBackends (account : String) : Discreet (pgBackends account) :=
  (discreet_connect .postgres).next fun _ => Discreet.ask _ rfl

theorem discreet_lookupAll (names accessors : List String) : Discreet (lookupAll names accessors) := by
  induction accessors with
  | nil => exact Discreet.ret _
  | cons acc rest ih =>
    have looked : Discreet ((Service.call (ask (.lookupAccessor acc))).onError fun exn =>
        if exn.gone then .ret none else .raise exn) :=
      (Discreet.ask _ rfl).call.onError fun exn => Discreet.cond (Discreet.ret _) (Discreet.raise exn)
    refine looked.next fun info => ih.next fun found => ?_
    cases info with
    | none => exact Discreet.ret _
    | some name => exact Discreet.cond (Discreet.ret _) (Discreet.ret _)

theorem discreet_findTokenAccessors (label : String) : Discreet (findTokenAccessors label) :=
  (Discreet.ask _ rfl).call.next fun _ => Discreet.cond (Discreet.raise _) (discreet_lookupAll _ _)

theorem discreet_listLeases (role : String) : Discreet (listLeases role) :=
  (Discreet.ask _ rfl).call.next fun _ => Discreet.ret _

theorem discreet_vaultRevoke (lease : String) : Discreet (vaultRevoke lease) := by
  refine Discreet.next (Discreet.ask _ rfl) fun (found : Option Found) => ?_
  cases found with
  | none => exact Discreet.ret _
  | some found => exact (Discreet.forEach fun _ => Discreet.ask _ rfl).next fun _ => Discreet.ask _ rfl

theorem discreet_revokeLease (lease : String) : Discreet (revokeLease lease) :=
  (discreet_vaultRevoke lease).call.onError fun exn => Discreet.cond (Discreet.ret _) (Discreet.raise exn)

theorem discreet_revokeAccessor (accessor : String) : Discreet (revokeAccessor accessor) :=
  (Discreet.ask _ rfl).call.onError fun exn => Discreet.cond (Discreet.ret _) (Discreet.raise exn)

/-- The credentials are the same but for the password, whatever the tokens. -/
theorem readCredentials_twins (token token' : Secret) (role : String) :
    Paired twins (fun a a' : Creds => a.masked = a'.masked) (readCredentials token role) (readCredentials token' role) := by
  have opening : Paired twins (@Eq Opened) (ask (.credsOpen token role)) (ask (.credsOpen token' role)) :=
    Paired.perform (L := twins) (.credsOpen token token' role)
  have closing (o : Opened) : Paired twins (fun a a' : Option Creds => a.map Creds.masked = a'.map Creds.masked)
      (ask (.credsClose o)) (ask (.credsClose o)) := Paired.perform (L := twins) (.credsClose o)
  have statements (o : Opened) : Discreet (Interaction.Prog.forEach o.creation fun text =>
      ask (.runStatement o.db text o.account)) := Discreet.forEach fun _ => Discreet.ask _ rfl
  have server := opening.next fun o => Paired.next (statements o) fun _ => closing o
  refine server.bind fun answer answer' same => ?_
  cases answer with
  | none =>
    cases answer' with
    | none => exact .raise _
    | some creds' => cases same
  | some creds =>
    cases answer' with
    | none => cases same
    | some creds' => exact .ret (Option.some.inj same)

theorem discreet_helperCleanup (role : String) (lease accessor : Option String) :
    Discreet (helperCleanup role lease accessor) :=
  (Discreet.forGiven fun lease => (discreet_revokeLease lease).quietly).next fun _ =>
    (Discreet.forGiven fun accessor => (discreet_revokeAccessor accessor).quietly).next fun _ =>
      (discreet_deleteRole role).onError fun _ => Discreet.ask _ rfl

theorem orCleanup_twins {p p' : Portal α} {cleanup : Portal Unit} (related : Paired twins R p p')
    (cleaned : Discreet cleanup) : Paired twins R (orCleanup p cleanup) (orCleanup p' cleanup) :=
  related.onError fun exn => Paired.next cleaned fun _ => .raise exn

theorem discreet_runAsManager (db : DbType) (label : String) (statements : List String) :
    Discreet (runAsManager db label statements) := by
  refine (orCleanup_twins (discreet_writeRole _ _ _ _ _) (discreet_helperCleanup _ _ _)).next fun _ => ?_
  refine (orCleanup_twins (createGrantToken_twins _ _) (discreet_helperCleanup _ _ _)).bind ?_
  rintro ⟨token, accessor⟩ ⟨token', accessor'⟩ same
  have same : accessor = accessor' := same
  subst same
  refine (orCleanup_twins (readCredentials_twins token token' _) (discreet_helperCleanup _ _ _)).bind
    fun creds creds' alike => ?_
  have lease : creds.leaseId = creds'.leaseId := congrArg (·.leaseId) alike
  rw [lease]
  exact discreet_helperCleanup _ _ _

end vault

section grants

theorem discreet_updateGrant (id : GrantId) (fields : GrantFields) : Discreet (updateGrant id fields) :=
  Discreet.next (Discreet.ask .now rfl) fun _ => Discreet.ask _ rfl

theorem discreet_audit (requestId : Option String) (id : Option GrantId) (actor action result detail : String) :
    Discreet (audit requestId id actor action result detail) :=
  Discreet.next (Discreet.ask .now rfl) fun _ => Discreet.ask _ rfl

theorem discreet_run (db : DbType) (id : GrantId) (statements : List String) : Discreet (run_ db id statements) :=
  Discreet.cond (Discreet.ret ()) (Discreet.next (Discreet.ask (.tokenHex 2) rfl) fun _ => discreet_runAsManager _ _ _)

theorem discreet_terminateLoop (account : String) (id : GrantId) (deadline : Time) :
    Discreet (terminateLoop account id deadline) := by
  refine Paired.while_ ((discreet_pgBackends account).next fun _ => Discreet.ret _) ?_
  refine Discreet.next (Discreet.ask .now rfl) fun now => ?_
  exact Discreet.cond (Discreet.raise _) ((Discreet.lift _).next fun _ => (discreet_run _ _ _).next fun _ =>
    Discreet.ask _ rfl)

theorem discreet_lockOutAndTerminate (db : DbType) (account : String) (id : GrantId) :
    Discreet (lockOutAndTerminate db account id) := by
  have postgres : Discreet (lockOutPostgres account id) :=
    (Discreet.lift _).next fun _ => (discreet_run _ _ _).next fun _ => Discreet.next (Discreet.ask .now rfl) fun _ =>
      (Discreet.ask _ rfl).next fun _ => (discreet_terminateLoop _ _ _).next fun _ => Discreet.ask _ rfl
  exact Discreet.cond (Discreet.ret ()) ((postgres.next fun _ => Discreet.ask _ rfl).onError fun exn =>
    (Discreet.ask _ rfl).next fun _ => Discreet.raise exn)

theorem discreet_tokensOf (g : Grant) (id : GrantId) : Discreet (tokensOf g id) := by
  unfold tokensOf
  split
  · exact Discreet.ret _
  · exact discreet_findTokenAccessors _

theorem discreet_teardownSteps (g : Grant) (id : GrantId) : Discreet (teardownSteps g id) := by
  refine (discreet_tokensOf g id).next fun accessors => (discreet_findAccounts _ _).next fun accounts => ?_
  refine (Discreet.forEach fun _ => discreet_lockOutAndTerminate _ _ _).next fun _ => ?_
  refine (discreet_listLeases _).next fun listed => (Discreet.forEach discreet_revokeLease).next fun _ => ?_
  refine (discreet_findAccounts _ _).next fun present => (Discreet.forEach fun account => ?_).next fun _ => ?_
  · exact (discreet_lockOutAndTerminate _ _ _).next fun _ => (Discreet.lift _).next fun _ => discreet_run _ _ _
  · refine (discreet_findAccounts _ _).next fun left => Discreet.cond (Discreet.raise _) ?_
    exact Discreet.next (Discreet.ask (.setOrder _) rfl) fun _ => (Discreet.forEach discreet_revokeAccessor).next fun _ =>
      discreet_deleteRole _

theorem discreet_teardown (id : GrantId) (final : Status) (requestId : Option String) (actor : String)
    (raiseErrors : Bool) : Discreet (teardown id final requestId actor raiseErrors) := by
  refine Discreet.next (Discreet.ask (.mark (.teardown id final)) rfl) fun _ =>
    Discreet.next (Discreet.ask (.getGrant id) rfl) fun (row : Option Grant) => ?_
  cases row with
  | none => exact Discreet.ret ()
  | some g =>
    refine (discreet_teardownSteps g id).attempt fun outcome => ?_
    cases outcome with
    | ok _ => exact (discreet_updateGrant _ _).next fun _ => discreet_audit _ _ _ _ _ _
    | error exn =>
      exact (Discreet.ask _ rfl).next fun _ => (discreet_updateGrant _ _).next fun _ =>
        (discreet_audit _ _ _ _ _ _).next fun _ => Discreet.cond (Discreet.raise exn) (Discreet.ret ())

/-- Two issues leave the same behind, and return the same but for the password. -/
theorem issueSteps_twins (req : GrantRequest) (id : GrantId) (creation revocation : List String) :
    Paired twins (fun a a' : Creds => a.masked = a'.masked) (issueSteps req id creation revocation)
      (issueSteps req id creation revocation) := by
  refine Paired.next (discreet_writeRole _ _ _ _ _) fun _ => (createGrantToken_twins _ _).bind ?_
  rintro ⟨token, accessor⟩ ⟨token', accessor'⟩ same
  have same : accessor = accessor' := same
  subst same
  refine Paired.next (discreet_updateGrant _ _) fun _ => (readCredentials_twins token token' _).bind
    fun creds creds' alike => ?_
  have username : creds.username = creds'.username := congrArg (·.username) alike
  have lease : creds.leaseId = creds'.leaseId := congrArg (·.leaseId) alike
  have duration : creds.leaseDuration = creds'.leaseDuration := congrArg (·.leaseDuration) alike
  refine Paired.next (Discreet.ask .now rfl) fun now => ?_
  rw [username, lease, duration]
  exact Paired.next (discreet_updateGrant _ _) fun _ => .ret alike

theorem issueLocked_twins (req : GrantRequest) (actor requestId : String) (id : GrantId)
    (creation revocation : List String) :
    Paired twins (fun a a' : Creds => a.masked = a'.masked) (issueLocked req actor requestId id creation revocation)
      (issueLocked req actor requestId id creation revocation) := by
  have inserted : Discreet (insertGrant (req.toNew id actor)) :=
    Discreet.next (Discreet.ask .now rfl) fun _ => Discreet.ask _ rfl
  have failed (exn : Exc) : Paired twins (fun a a' : Creds => a.masked = a'.masked)
      (issueFailed id actor requestId exn) (issueFailed id actor requestId exn) :=
    Paired.next (discreet_audit _ _ _ _ _ _) fun _ => Paired.next (discreet_teardown _ _ _ _ _) fun _ => .raise exn
  refine Paired.next inserted fun _ => ((issueSteps_twins _ _ _ _).onError failed).bind fun creds creds' alike => ?_
  exact Paired.next (discreet_audit _ _ _ _ _ _) fun _ => .ret alike

theorem discreet_publicGrant (id : GrantId) : Discreet (publicGrant id) := by
  refine Discreet.next (Discreet.ask (.getGrant id) rfl) fun (row : Option Grant) => ?_
  cases row with
  | none => exact Discreet.raise _
  | some g => exact Discreet.ret _

theorem discreet_begin (db : DbType) (id : GrantId) (caller : Caller) : Discreet (begin_ db id caller) := by
  refine Discreet.next (Discreet.ask (.lockAcquire db id caller) rfl) fun (acquired : Bool) => ?_
  exact Discreet.cond (Discreet.ask _ rfl) (Discreet.raise _)

theorem discreet_end (db : DbType) (id : GrantId) : Discreet (end_ db id) :=
  (Discreet.ask _ rfl).next fun _ => Discreet.ask _ rfl

theorem discreet_mutateStatements (cfg : Config) (creation : List String) : Discreet (mutateStatements cfg creation) := by
  refine Discreet.cond (Discreet.next (Discreet.ask .bogusArmed rfl) fun (armed : Bool) => ?_) (Discreet.ret _)
  exact Discreet.cond (Discreet.ret _) (Discreet.ret _)

theorem issue_twins (cfg : Config) (req : GrantRequest) (actor requestId : String) :
    Paired twins (fun a a' : Issued => a.masked = a'.masked) (issue cfg req actor requestId)
      (issue cfg req actor requestId) := by
  refine Paired.next (Discreet.lift _) fun _ => Paired.next (discreet_catalog _) fun cat =>
    Paired.next (Discreet.lift _) fun statements => Paired.next (discreet_mutateStatements _ _) fun creation => ?_
  have drawn : Discreet newGrantId := Discreet.next (Discreet.ask (.tokenHex 5) rfl) fun _ => Discreet.ret _
  refine Paired.next drawn fun id => Paired.next (discreet_begin _ _ _) fun _ => ?_
  refine ((issueLocked_twins _ _ _ _ _ _).finally_ (discreet_end _ _)).bind fun creds creds' alike => ?_
  exact Paired.next (discreet_publicGrant id) fun g => .ret rfl

theorem discreet_revoke (id : GrantId) (actor requestId : String) : Discreet (revoke id actor requestId) := by
  refine Discreet.next (Discreet.ask (.getGrant id) rfl) fun (row : Option Grant) => ?_
  cases row with
  | none => exact Discreet.raise _
  | some g =>
    refine Discreet.cond (Discreet.ret _) ((discreet_begin _ _ _).next fun _ => ?_)
    have locked : Discreet (revokeLocked id actor requestId) :=
      (discreet_updateGrant _ _).next fun _ => (discreet_audit _ _ _ _ _ _).next fun _ => discreet_teardown _ _ _ _ _
    exact (locked.finally_ (discreet_end _ _)).next fun _ => discreet_publicGrant id

theorem discreet_reconcileOne (id : GrantId) : Discreet (reconcileOne id) := by
  have locked : Discreet (reconcileLocked id) := by
    refine Discreet.next (Discreet.ask (.getGrant id) rfl) fun (row : Option Grant) => ?_
    cases row with
    | none => exact Discreet.ret ()
    | some g =>
      refine Discreet.next (Discreet.ask .now rfl) fun (now : Time) => ?_
      cases decided : finalFor g now with
      | none => exact Discreet.ret ()
      | some final => exact discreet_teardown _ _ _ _ _
  refine Discreet.next (Discreet.ask (.getGrant id) rfl) fun (row : Option Grant) => ?_
  cases row with
  | none => exact Discreet.ret ()
  | some g => exact (discreet_begin _ _ _).next fun _ => locked.finally_ (discreet_end _ _)

theorem discreet_reportOrphans : Discreet reportOrphans := by
  refine Discreet.next (Discreet.ask (.listByStatus _) rfl) fun (rows : List Grant) => Discreet.cond (Discreet.ret ()) ?_
  refine Discreet.forEach fun db => (discreet_leftoverUsers db).attempt fun outcome => ?_
  cases outcome with
  | error exn => exact Discreet.ret ()
  | ok names =>
    refine Discreet.forEach fun name => Discreet.cond (Discreet.ret ()) ?_
    exact Discreet.next (Discreet.ask (.auditExists _ _) rfl) fun (seen : Bool) =>
      Discreet.cond (Discreet.ret ()) (discreet_audit _ _ _ _ _ _)

theorem discreet_reconcileOnce : Discreet reconcileOnce := by
  refine Discreet.next (Discreet.ask .now rfl) fun (now : Time) =>
    Discreet.next (Discreet.ask (.listByStatus _) rfl) fun (rows : List Grant) => ?_
  refine (Discreet.forEach fun g => ?_).next fun _ => ?_
  · refine Discreet.next (Discreet.ask (.inflightHas g.id) rfl) fun (busy : Bool) => Discreet.cond (Discreet.ret ()) ?_
    cases decided : finalFor g now with
    | none => exact Discreet.ret ()
    | some final => exact (discreet_reconcileOne g.id).quietly
  · refine Discreet.next (Discreet.next (Discreet.ask .now rfl) fun (now : Time) => Discreet.ask (.purgeSessions now) rfl)
      fun (purged : List Session) => ?_
    exact (Discreet.forEach fun (session : Session) => (Discreet.ask (.revokeSelf session.vaultToken) rfl).quietly).next fun _ =>
      discreet_reportOrphans

end grants

section requests
variable {α : Type} {R : α → α → Prop} {site : Site} {req : Request}

theorem admit_twins {kind : Kind} {body body' : Portal α} (related : Paired twins R body body') :
    Paired twins R (admit_ kind body) (admit_ kind body') := by
  refine Paired.next (Discreet.ask (.slotAcquire kind) rfl) fun (granted : Bool) => ?_
  cases granted
  · exact .raise _
  · exact related.finally_ (Discreet.ask (.slotRelease kind) rfl)

theorem Discreet.gated {kind : Kind} {body : Portal α} (discreet : Discreet body) : Discreet (admit_ kind body) :=
  admit_twins discreet

theorem discreet_revokeTokenQuietly (token : Secret) : Discreet (revokeTokenQuietly token) :=
  (Discreet.ask (.revokeSelf token) rfl).quietly

theorem discreet_endSession (sid : String) (s : Session) : Discreet (endSession sid s) :=
  (Discreet.ask _ rfl).next fun _ => discreet_revokeTokenQuietly _

theorem discreet_recheck (s : Session) : Discreet (recheck s) := by
  have policies : Discreet (userPolicies s.username) :=
    Discreet.cond ((Discreet.ask (.readUser s.username) rfl).call.onError fun exn =>
      Discreet.cond (Discreet.ret none) (Discreet.raise exn)) (Discreet.ret none)
  have alive : Discreet (tokenPolicies s.vaultToken) :=
    (Discreet.next (Discreet.ask (.lookupSelf s.vaultToken) rfl) fun (names : List String) =>
      Discreet.ret (some names)).onError fun exn =>
        Discreet.cond (Discreet.ret none) (Discreet.cond (Discreet.raise _) (Discreet.raise exn))
  have both := policies.next fun current => alive.next fun token => Discreet.ret (current, token)
  refine (Discreet.onError (@Discreet.gated _ .session _ both) fun exn => ?_).next fun _ => Discreet.ret _
  exact Discreet.cond (Discreet.raise _) (Discreet.raise exn)

theorem discreet_touchSession (sid : String) (checked : Bool) : Discreet (touchSession sid checked) :=
  Discreet.next (Discreet.ask .now rfl) fun _ => Discreet.ask _ rfl

theorem discreet_checkSession (sid : String) (s : Session) (now : Time) : Discreet (checkSession site sid s now) := by
  refine Discreet.cond ((discreet_endSession _ _).next fun _ => Discreet.ret none) (Discreet.cond ?_ ?_)
  · refine (discreet_recheck s).next fun rights => Discreet.cond ?_ ?_
    · exact (discreet_touchSession _ _).next fun _ => Discreet.ret _
    · exact (discreet_endSession _ _).next fun _ => (discreet_audit _ _ _ _ _ _).next fun _ => Discreet.ret none
  · exact (discreet_touchSession _ _).next fun _ => Discreet.ret _

theorem discreet_currentSession : Discreet (currentSession site req) := by
  unfold currentSession
  split
  · exact Discreet.ret none
  · refine Discreet.next (Discreet.ask (.getSession _) rfl) fun (row : Option Session) => ?_
    cases row with
    | none => exact Discreet.ret none
    | some s => exact Discreet.next (Discreet.ask .now rfl) fun now => discreet_checkSession _ s now

theorem discreet_requireAdmin : Discreet (requireAdmin site req) := by
  refine discreet_currentSession.next fun session => ?_
  cases session with
  | none => exact Discreet.raise _
  | some s =>
    exact Discreet.cond (Discreet.ret s) ((Discreet.lift _).next fun _ => (Discreet.lift _).next fun same =>
      Discreet.cond (Discreet.ret s) (Discreet.raise _))

theorem discreet_loginPage (msg : String) (status : Nat) (username : String) :
    Discreet (loginPage req msg status username) :=
  (discreet_audit _ _ _ _ _ _).next fun _ => Discreet.next (Discreet.ask .tokenUrlsafe rfl) fun _ => Discreet.ret _

theorem discreet_admitAdmin (username : String) (token : Secret) (policies : List String) :
    Discreet (admitAdmin req username token policies) := by
  have replaced (old : String) : Discreet (replaceSession old) := by
    refine Discreet.next (Discreet.ask (.getSession ⟨old⟩) rfl) fun (prev : Option Session) =>
      Discreet.next (Discreet.ask (.deleteSession ⟨old⟩) rfl) fun _ => ?_
    cases prev with
    | none => exact Discreet.ret ()
    | some s => exact discreet_revokeTokenQuietly _
  have created : Discreet (createSession username token) :=
    Discreet.next (Discreet.ask .tokenUrlsafe rfl) fun _ => Discreet.next (Discreet.ask .tokenUrlsafe rfl) fun _ =>
      Discreet.next (Discreet.ask .now rfl) fun _ => (Discreet.ask _ rfl).next fun _ => Discreet.ret _
  refine Discreet.cond ((discreet_revokeTokenQuietly _).next fun _ => (discreet_loginPage _ _ _).next fun _ =>
    Discreet.ret _) ?_
  exact (Discreet.forGiven replaced).next fun _ => created.next fun _ => (discreet_audit _ _ _ _ _ _).next fun _ =>
    Discreet.ret _

theorem discreet_doLogin (username password : String) : Discreet (doLogin req username password) := by
  have logs : Discreet (userpassLogin username password) :=
    (Discreet.ask (.userpassLogin username password) rfl).onError fun exn =>
      Discreet.cond (Discreet.raise _) (Discreet.cond (Discreet.raise _) (Discreet.raise exn))
  have admitted : Discreet (loginAdmitted req username password) := by
    refine Discreet.cond ((discreet_loginPage _ _ _).next fun _ => Discreet.ret _) ?_
    refine Discreet.next ((logs.next fun a => Discreet.ret (some a)).onError fun exn =>
      Discreet.cond (Discreet.ret none) (Discreet.raise exn)) fun logged => ?_
    cases logged with
    | none => exact (discreet_loginPage _ _ _).next fun _ => Discreet.ret _
    | some answer => exact discreet_admitAdmin _ _ _
  refine (admitted.gated.onError fun exn => Discreet.cond (Discreet.raise _) (Discreet.raise exn)).next fun outcome => ?_
  cases outcome <;> exact Discreet.ret _

theorem discreet_loginSubmit : Discreet (loginSubmit site req) :=
  (Discreet.lift _).next fun _ => Discreet.cond (Discreet.raise _) ((Discreet.lift _).next fun _ =>
    Discreet.cond (discreet_doLogin _ _) (Discreet.raise _))

theorem discreet_indexTables (db : DbType) (error : Option String) : Discreet (indexTables db error) :=
  Discreet.onError ((discreet_catalog db).gated.next fun _ => Discreet.ret _) fun _ =>
    Discreet.cond (Discreet.ret _) (Discreet.ret _)

/-- Responses that are the same but for the password of an issue. -/
abbrev Alike (response response' : Response) : Prop := response.masked = response'.masked

theorem Discreet.alike {p : Portal Response} (discreet : Discreet p) : Paired twins Alike p p :=
  Paired.mono discreet fun _ _ same => congrArg Response.masked same

theorem indexPage_twins (s : Session) {result result' : Option Issued} (error : Option String) (status : Nat)
    (same : result.map Issued.masked = result'.map Issued.masked) :
    Paired twins Alike (indexPage site s result error status) (indexPage site s result' error status) := by
  refine Paired.next (discreet_indexTables .postgres error) fun pg =>
    Paired.next (discreet_indexTables .clickhouse pg.2) fun ch =>
      Paired.next (Discreet.ask (.listGrants 100) rfl) fun (rows : List Grant) => .ret ?_
  simp only [Alike, Response.masked, Body.masked, same]

theorem issueGrant_twins (s : Session) (body : GrantRequest) :
    Paired twins (fun a a' : Issued => a.masked = a'.masked) (issueGrant site req s body) (issueGrant site req s body) := by
  refine (admit_twins (issue_twins _ _ _ _)).onError fun exn => ?_
  cases exn.cls <;> exact .raise _

theorem createGrantForm_twins (s : Session) :
    Paired twins Alike (createGrantForm site req s) (createGrantForm site req s) := by
  unfold createGrantForm
  cases req.form.grant with
  | error msg => exact indexPage_twins s (some msg) 400 rfl
  | ok body =>
    refine (issueGrant_twins s body).attempt.bind fun x x' outcomes => ?_
    cases outcomes with
    | ok same => exact indexPage_twins s none 200 (congrArg some same)
    | error exn =>
      cases exn with
      | mk cls text =>
        cases cls
        case http status => exact indexPage_twins s (some text) status rfl
        case valueError => exact indexPage_twins s (some text) 400 rfl
        all_goals exact .raise _

theorem discreet_revokeGrant (s : Session) (id : GrantId) : Discreet (revokeGrant req s id) := by
  refine Discreet.next (Discreet.onError (discreet_revoke _ _ _).gated fun exn => ?_) fun g =>
    Discreet.cond (Discreet.ret _) (Discreet.ret _)
  cases exn.cls <;> exact Discreet.raise _

theorem apiCreateGrant_twins (s : Session) (body : GrantRequest) :
    Paired twins Alike (apiCreateGrant site req s body) (apiCreateGrant site req s body) := by
  unfold apiCreateGrant
  split
  · refine (issueGrant_twins s body).bind fun issued issued' same => .ret ?_
    simp only [Alike, Response.masked, Body.masked, same]
  · exact .raise _

theorem discreet_apiListTables (db : DbType) : Discreet (apiListTables db) :=
  ((discreet_catalog db).gated.onError fun exn => Discreet.cond (Discreet.raise _) (Discreet.raise exn)).next fun _ =>
    Discreet.ret _

theorem discreet_rotateConnection (s : Session) (db : DbType) : Discreet (rotateConnection req s db) := by
  have admitted : Discreet (rotateAdmitted req s db) :=
    ((Discreet.ask (.rotateRoot db) rfl).call.onError fun exn => Discreet.cond (Discreet.raise exn)
      ((discreet_audit _ _ _ _ _ _).next fun _ => Discreet.raise _)).next fun _ => discreet_audit _ _ _ _ _ _
  exact (admitted.gated.onError fun exn => Discreet.cond (Discreet.raise _) (Discreet.raise exn)).next fun _ =>
    Discreet.cond (Discreet.ret _) (Discreet.ret _)

theorem dispatch_twins : Paired twins Alike (dispatch site req) (dispatch site req) := by
  have admin {f : Session → Portal Response} (rest : ∀ s, Paired twins Alike (f s) (f s)) :
      Paired twins Alike ((requireAdmin site req).bind f) ((requireAdmin site req).bind f) :=
    Paired.next discreet_requireAdmin rest
  have checked {α : Type} (value : Except String α) : Discreet (matched value) := by
    cases value with
    | ok value => exact Discreet.ret value
    | error message => exact Discreet.raise _
  unfold dispatch
  cases req.route with
  | healthz => exact .ret rfl
  | loginForm error =>
    exact Paired.next (Discreet.ask .tokenUrlsafe rfl) fun _ => .ret rfl
  | login => exact discreet_loginSubmit.alike
  | logout =>
    refine admin fun s => Discreet.alike ?_
    exact (Discreet.ask _ rfl).next fun _ => (discreet_revokeTokenQuietly _).next fun _ =>
      (discreet_audit _ _ _ _ _ _).next fun _ => Discreet.ret _
  | index => exact admin fun s => indexPage_twins s none 200 rfl
  | createGrantForm => exact admin createGrantForm_twins
  | revokeGrant api id =>
    exact admin fun s => ((checked id).next fun id => discreet_revokeGrant s id).alike
  | apiSession => exact admin fun s => .ret rfl
  | apiCreateGrant body =>
    cases body with
    | malformed message => exact .raise _
    | invalid message => exact admin fun _ => .raise _
    | accepted body => exact admin fun s => apiCreateGrant_twins s body
  | apiListGrants =>
    exact admin fun _ => Paired.next (Discreet.ask (.listGrants 500) rfl) fun _ => .ret rfl
  | apiListTables db => exact admin fun _ => ((checked db).next discreet_apiListTables).alike
  | settingsPage message => exact admin fun s => .ret rfl
  | rotateConnection db => exact admin fun s => ((checked db).next fun db => discreet_rotateConnection s db).alike

theorem discreet_handle : Discreet (handle site req) := by
  refine dispatch_twins.attempt.bind fun x x' outcomes => ?_
  cases outcomes with
  | @ok response response' alike => exact Paired.perform (L := twins) (.respond response response' alike)
  | error exn => exact Paired.perform (L := twins) (.respond (answer req exn) (answer req exn) rfl)

end requests

section runs
variable {site : Site} {duties : Nat → Duty} {s s' : System}

/-- Two runs of the process side by side: the same requests and passes of the reconciler, moves of the same threads
in the same order and answers that differ in the secrets of Vault's only. -/
abbrev System.Twins (site : Site) (duties : Nat → Duty) : System → System → Prop :=
  Pool.Twins mirror (fun t (_ : Unit) => (duties t).code site) System.start

theorem Duty.discreet (duty : Duty) : Discreet (duty.code site) := by
  cases duty with
  | serves req => exact discreet_handle
  | reconciles => exact discreet_reconcileOnce

theorem System.Twins.masked (run : System.Twins site duties s s') : s.world.masked = s'.world.masked :=
  (Pool.Twins.mirrored (fun t _ => (duties t).discreet) ⟨rfl, fun _ => .none⟩ run).worlds

/-- No secret of Vault's reaches the store, nor a response, apart from the password in the one to its own issue. -/
theorem System.Twins.nothing_told (run : System.Twins site duties s s') :
    s.world.store = s'.world.store ∧
      s.world.book.told.map Response.masked = s'.world.book.told.map Response.masked :=
  ⟨congrArg (·.store) run.masked, congrArg (·.book.told) run.masked⟩

/-- A choice of the second run: the secrets are others, but a log-in gets the same token. -/
def Choice.other (op : Op) (c : Choice) : Choice := if op.logsIn then c else { c with secret := ⟨"other"⟩ }

theorem Choice.like_other (op : Op) (c : Choice) : Choice.Like op c (c.other op) := by
  unfold other Like
  by_cases user : op.logsIn = true
  · rw [if_pos user]
    exact ⟨rfl, fun _ => rfl⟩
  · rw [if_neg user]
    exact ⟨rfl, fun holds => absurd holds user⟩

/-- The next move of a thread where all goes well, in both runs. -/
def System.goes (t : Nat) (s : System) (other : Bool) : Interaction.Label Nat Choice Event Unit :=
  match s.threads t with
  | some (.call op _) =>
    let choice := match op with
      | .userpassLogin .. => { names := [ADMIN_POLICY_NAME], secret := ⟨"secret"⟩ }
      | .tokenUrlsafe => { key := "token" }
      | op => op.success s.world
    .run t (if other then choice.other op else choice)
  | _ => .run t {}

/-- Both runs go on as long as both can. -/
def System.besides (site : Site) (duties : Nat → Duty) : List (Nat × Bool) → System × System → System × System
  | [], pair => pair
  | (t, spawns) :: moves, (s, s') =>
    let label := if spawns then .spawn t () else s.goes t false
    let label' := if spawns then .spawn t () else s.goes t true
    match Pool.step machine (fun t _ => (duties t).code site) label s,
        Pool.step machine (fun t _ => (duties t).code site) label' s' with
    | some u, some u' => besides site duties moves (u, u')
    | _, _ => besides site duties moves (s, s')

theorem System.goes_like (t : Nat) (s : System) : Pool.Labels mirror s (s.goes t false) (s.goes t true) := by
  unfold goes
  split
  · rename_i op next at_t
    refine .run t fun op' next' same => ?_
    rw [at_t] at same
    cases same
    exact Choice.like_other _ _
  · rename_i other
    exact .run t fun op next at_t => absurd at_t (other op next)

theorem System.Twins.besides (moves : List (Nat × Bool)) (run : System.Twins site duties s s') :
    System.Twins site duties (System.besides site duties moves (s, s')).1
      (System.besides site duties moves (s, s')).2 := by
  induction moves generalizing s s' with
  | nil => exact run
  | cons move moves ih =>
    obtain ⟨t, spawns⟩ := move
    rw [System.besides]
    split
    · rename_i u u' stepped stepped'
      refine ih (.next run ?_ stepped stepped')
      cases spawns
      · exact s.goes_like t
      · exact .spawn t ()
    · exact ih run

def issueRequest : Request where
  id := "2"
  route := .apiCreateGrant (.accepted clickhouseRequest)
  sid := some "token"
  secFetchSite := some "same-origin"
  csrfToken := some "token"
  contentType := some "application/json"

def loginThenIssue : Nat → Duty
  | 0 => .serves loginRequest
  | _ => .serves issueRequest

/-- Two issues that have been answered, with different passwords. -/
def issuedTwins : System × System :=
  System.besides someSite loginThenIssue
    ((0, true) :: List.replicate 14 (0, false) ++ (1, true) :: List.replicate 80 (1, false))
    (System.start, System.start)

set_option maxRecDepth 100000 in
theorem issuedTwins_same : (issuedTwins.1.world.store = issuedTwins.2.world.store ∧
    issuedTwins.1.world.book.told.map Response.masked = issuedTwins.2.world.book.told.map Response.masked) ∧
      issuedTwins.1.world.book.told ≠ issuedTwins.2.world.book.told :=
  ⟨System.Twins.nothing_told (.besides _ .start), by decide +kernel⟩

end runs
end Vdba
