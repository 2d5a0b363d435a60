import Mathlib.Logic.Function.Basic

namespace JiraGame.AccountMap

/-- An account: its user id, password, latest session id, and its roles by type
and name. -/
@[ext] structure Account where
  id : Int
  password : String
  session : Option String := none
  role : Int → String → Prop := fun _ _ => False

namespace Account

def HasType (a : Account) (t : Int) : Prop := ∃ n, a.role t n

def addRole (a : Account) (t : Int) (n : String) : Account :=
  { a with role := fun t' m => a.role t' m ∨ t' = t ∧ m = n }

theorem role_addRole {a : Account} {t t' : Int} {n m : String} :
    (a.addRole t n).role t' m ↔ a.role t' m ∨ t' = t ∧ m = n := Iff.rfl

end Account

/-- The accounts by user name, and how many have been registered. -/
@[ext] structure Accounts where
  count : Int
  account : String → Option Account

def noAccounts : Accounts := { count := 0, account := fun _ => none }

/-- `digits` is the random part of the session id that a login assigns. -/
inductive Request
  | register (username password : String)
  | login (username password digits : String)
  | createRole (sessionid : String) (roletype : Int) (name : String)
  | selectRole (sessionid : String) (roletype : Int)

/-- A created role is answered with the roles of an account, where there is one. -/
inductive Reply
  | registered (ok : Bool)
  | refused
  | loggedIn (sessionid : String) (a : Account)
  | notCreated
  | created (a? : Option Account)
  | selected (id? : Option Int)
  | silent

namespace Accounts

def put (w : Accounts) (u : String) (a : Account) : Accounts :=
  { w with account := Function.update w.account u (some a) }

/-- Role names are unique among all accounts. -/
def Unused (w : Accounts) (n : String) : Prop :=
  ∀ u a t, w.account u = some a → ¬ a.role t n

def HasType (w : Accounts) (u : String) (t : Int) : Prop :=
  ∃ a, w.account u = some a ∧ a.HasType t

/-- The user `x.1` with account `x.2` has the latest session id `sid`. -/
def Owns (w : Accounts) (sid : String) (x : String × Account) : Prop :=
  w.account x.1 = some x.2 ∧ x.2.session = some sid

open Classical in
noncomputable def owner (w : Accounts) (sid : String) : Option (String × Account) :=
  if h : ∃ x, w.Owns sid x then some h.choose else none

open Classical in
/-- The reply to a request, and the accounts after it; `held` is the session id
of the socket that the request comes from. The creation of a role looks its user
up again, by the name as it is shown. -/
noncomputable def answer (shown : String → String) (w : Accounts) (held : Option String) :
    Request → Accounts × Reply
  | .register u p =>
    match w.account u with
    | some _ => (w, .registered false)
    | none =>
      let a : Account := { id := w.count + 1, password := p }
      ({ count := w.count + 1, account := (w.put u a).account }, .registered true)
  | .login u p digits =>
    match w.account u with
    | none => (w, .refused)
    | some a =>
      if a.password = p then
        let sid := u ++ "_" ++ digits
        (w.put u { a with session := some sid }, .loggedIn sid { a with session := some sid })
      else (w, .refused)
  | .createRole sid t n =>
    if held = some sid then
      match w.owner sid with
      | none => (w, .notCreated)
      | some (u, a) =>
        if n ≠ "" ∧ ¬ w.HasType (shown u) t ∧ w.Unused n then
          (w.put u (a.addRole t n), .created ((w.put u (a.addRole t n)).account (shown u)))
        else (w, .notCreated)
    else (w, .notCreated)
  | .selectRole sid t =>
    if held = some sid then
      match w.owner sid with
      | none => (w, .selected none)
      | some (_, a) => (w, .selected (if a.HasType t then some a.id else none))
    else (w, .silent)

theorem owner_eq {w : Accounts} {sid : String} {x : String × Account} (hx : w.Owns sid x)
    (hone : ∀ y, w.Owns sid y → y = x) : w.owner sid = some x := by
  have h : ∃ x, w.Owns sid x := ⟨x, hx⟩
  rw [owner, dif_pos h, hone _ h.choose_spec]

theorem owner_eq_none {w : Accounts} {sid : String} (h : ∀ x, ¬ w.Owns sid x) :
    w.owner sid = none := dif_neg fun ⟨x, hx⟩ => h x hx

theorem owns_of_owner {w : Accounts} {sid : String} {x : String × Account}
    (h : w.owner sid = some x) : w.Owns sid x := by
  rw [owner] at h
  split at h
  · rename_i hex
    rw [← Option.some.inj h]
    exact hex.choose_spec
  · cases h

theorem account_put {w : Accounts} {u v : String} {b : Account} :
    (w.put v b).account u = if u = v then some b else w.account u := by
  simp [put, Function.update_apply]

theorem answer_selectRole (shown : String → String) (w : Accounts) (held : Option String)
    (sid : String) (t : Int) : (w.answer shown held (.selectRole sid t)).1 = w := by
  rw [answer]
  split
  · split <;> rfl
  · rfl

/-- What a request does to an account that is there. -/
inductive Becomes (shown : String → String) (w : Accounts) (held : Option String) (req : Request)
    (u : String) (a : Account) : Account → Prop
  | kept : Becomes shown w held req u a a
  | loggedIn (digits : String) (hreq : req = .login u a.password digits) :
      Becomes shown w held req u a { a with session := some (u ++ "_" ++ digits) }
  | added (sid : String) (t : Int) (n : String) (hreq : req = .createRole sid t n)
      (hheld : held = some sid) (howner : w.owner sid = some (u, a)) (hn : n ≠ "")
      (htype : ¬ w.HasType (shown u) t) (hunused : w.Unused n) :
      Becomes shown w held req u a (a.addRole t n)

section Answer

variable {shown : String → String} {w : Accounts} {held : Option String} {req : Request}
  {u : String} {a b : Account}

theorem answer_account (req : Request) (h : w.account u = some a) :
    ∃ b, (w.answer shown held req).1.account u = some b ∧ Becomes shown w held req u a b := by
  cases req with
  | register v p =>
    rw [answer]
    split
    · exact ⟨a, h, .kept⟩
    · rename_i hnone
      have hne : u ≠ v := by
        rintro rfl
        rw [hnone] at h
        cases h
      refine ⟨a, ?_, .kept⟩
      dsimp only
      rw [account_put, if_neg hne]
      exact h
  | login v p digits =>
    rw [answer]
    split
    · exact ⟨a, h, .kept⟩
    · rename_i b hb
      split
      · rename_i hp
        dsimp only
        rw [account_put]
        split
        · rename_i huv
          subst huv
          rw [h, Option.some.injEq] at hb
          subst hb
          exact ⟨_, rfl, .loggedIn digits (by rw [hp])⟩
        · exact ⟨a, h, .kept⟩
      · exact ⟨a, h, .kept⟩
  | createRole sid t n =>
    rw [answer]
    split
    · rename_i hheld
      split
      · exact ⟨a, h, .kept⟩
      · rename_i v b howner
        split
        · rename_i hfree
          dsimp only
          rw [account_put]
          split
          · rename_i huv
            subst huv
            have hb := (owns_of_owner howner).1
            rw [h, Option.some.injEq] at hb
            subst hb
            exact ⟨_, rfl, .added sid t n rfl hheld howner hfree.1 hfree.2.1 hfree.2.2⟩
          · exact ⟨a, h, .kept⟩
        · exact ⟨a, h, .kept⟩
    · exact ⟨a, h, .kept⟩
  | selectRole sid t =>
    rw [answer_selectRole]
    exact ⟨a, h, .kept⟩

theorem answer_no_account (h : w.account u = none)
    (hb : (w.answer shown held req).1.account u = some b) :
    ∃ p, req = .register u p ∧ b = { id := w.count + 1, password := p } := by
  have hno : w.account u ≠ some b := by
    rw [h]
    exact nofun
  cases req with
  | register v p =>
    rw [answer] at hb
    split at hb
    · exact absurd hb hno
    · dsimp only at hb
      rw [account_put] at hb
      split at hb
      · rename_i huv
        exact ⟨p, by rw [huv], (Option.some.inj hb).symm⟩
      · exact absurd hb hno
  | login v p digits =>
    rw [answer] at hb
    split at hb
    · exact absurd hb hno
    · rename_i c hc
      split at hb
      · dsimp only at hb
        rw [account_put, if_neg] at hb
        · exact absurd hb hno
        · rintro rfl
          rw [h] at hc
          cases hc
      · exact absurd hb hno
  | createRole sid t n =>
    rw [answer] at hb
    split at hb
    · split at hb
      · exact absurd hb hno
      · rename_i v c howner
        split at hb
        · dsimp only at hb
          rw [account_put, if_neg] at hb
          · exact absurd hb hno
          · rintro rfl
            have hc := (owns_of_owner howner).1
            rw [h] at hc
            cases hc
        · exact absurd hb hno
    · exact absurd hb hno
  | selectRole sid t =>
    rw [answer_selectRole] at hb
    exact absurd hb hno

/-- Where an account after a request comes from. -/
theorem answer_cases (hb : (w.answer shown held req).1.account u = some b) :
    (∃ p, req = .register u p ∧ b = { id := w.count + 1, password := p }) ∨
      ∃ a, w.account u = some a ∧ Becomes shown w held req u a b := by
  cases h : w.account u with
  | none => exact .inl (answer_no_account h hb)
  | some a =>
    obtain ⟨c, hc, hbecomes⟩ := @answer_account shown w held u a req h
    rw [hb, Option.some.injEq] at hc
    exact .inr ⟨a, rfl, hc ▸ hbecomes⟩

end Answer

section Extends

def Extends (w w' : Accounts) : Prop :=
  ∀ u a, w.account u = some a → ∃ a', w'.account u = some a' ∧ a'.id = a.id ∧
    ∀ t n, a.role t n → a'.role t n

theorem Extends.refl (w : Accounts) : w.Extends w := fun _ a h => ⟨a, h, rfl, fun _ _ hn => hn⟩

theorem Extends.trans {w w' w'' : Accounts} (h : w.Extends w') (h' : w'.Extends w'') :
    w.Extends w'' := by
  intro u a ha
  obtain ⟨b, hb, hid, hrole⟩ := h u a ha
  obtain ⟨c, hc, hid', hrole'⟩ := h' u b hb
  exact ⟨c, hc, hid'.trans hid, fun t n hn => hrole' t n (hrole t n hn)⟩

theorem answer_extends (shown : String → String) (w : Accounts) (held : Option String)
    (req : Request) : w.Extends (w.answer shown held req).1 := by
  intro u a ha
  obtain ⟨b, hb, hbecomes⟩ := @answer_account shown w held u a req ha
  refine ⟨b, hb, ?_⟩
  cases hbecomes with
  | kept | loggedIn => exact ⟨rfl, fun _ _ hn => hn⟩
  | added => exact ⟨rfl, fun _ _ hn => .inl hn⟩

end Extends

end Accounts

section Whole

variable (shown : String → String)

def Account.Whole (a : Account) : Prop := ∀ t n, a.role t n → shown n = n

def Accounts.Whole (w : Accounts) : Prop := ∀ u a, w.account u = some a → shown u = u ∧ a.Whole shown

def Request.Whole : Request → Prop
  | .register u _ => shown u = u
  | .createRole _ _ n => shown n = n
  | _ => True

instance (req : Request) : Decidable (req.Whole shown) :=
  match req with
  | .register u _ => inferInstanceAs (Decidable (shown u = u))
  | .createRole _ _ n => inferInstanceAs (Decidable (shown n = n))
  | .login _ _ _ | .selectRole _ _ => isTrue trivial

def Reply.Whole : Reply → Prop
  | .loggedIn _ a => a.Whole shown
  | .created a? => ∀ a, a? = some a → a.Whole shown
  | _ => True

end Whole

namespace Accounts

section Whole

variable {shown : String → String} {w : Accounts} {held : Option String} {req : Request}

theorem whole_noAccounts : noAccounts.Whole shown := nofun

theorem whole_answer (hw : w.Whole shown) (hreq : req.Whole shown) :
    (w.answer shown held req).1.Whole shown := by
  intro u b hb
  obtain ⟨p, rfl, rfl⟩ | ⟨a, ha, hbecomes⟩ := answer_cases hb
  · exact ⟨hreq, nofun⟩
  · obtain ⟨hu, hroles⟩ := hw u a ha
    refine ⟨hu, ?_⟩
    cases hbecomes with
    | kept | loggedIn => exact hroles
    | added sid t n hreq' =>
      subst hreq'
      rintro t' m (hm | ⟨-, rfl⟩)
      · exact hroles t' m hm
      · exact hreq

theorem whole_reply (hw : w.Whole shown) (hreq : req.Whole shown) :
    (w.answer shown held req).2.Whole shown := by
  have hafter := @whole_answer shown w held req hw hreq
  cases req with
  | register u p =>
    rw [answer]
    split <;> trivial
  | login u p digits =>
    rw [answer]
    split
    · trivial
    · rename_i a ha
      split
      · exact (hw u a ha).2
      · trivial
  | createRole sid t n =>
    rw [answer] at hafter ⊢
    split at hafter
    · rename_i hheld
      rw [if_pos hheld]
      split at hafter
      · trivial
      · split at hafter
        · rename_i u a _ hfree
          rw [if_pos hfree]
          exact fun b hb => (hafter (shown u) b hb).2
        · rename_i hfree
          rw [if_neg hfree]
          trivial
    · rename_i hheld
      rw [if_neg hheld]
      trivial
  | selectRole sid t =>
    rw [answer]
    split
    · split <;> trivial
    · trivial

/-- Where names are shown as they are, the second lookup finds the same user. -/
theorem answer_of_whole (hw : w.Whole shown) : w.answer shown held req = w.answer id held req := by
  cases req with
  | register | login | selectRole => rfl
  | createRole sid t n =>
    rw [answer, answer]
    split
    · split
      · rfl
      · rename_i u a howner
        rw [(hw u a (owns_of_owner howner).1).1, id]
    · rfl

end Whole

section Single

variable {shown : String → String} {w : Accounts} {held : Option String} {req : Request}

/-- An account has one role of a type. -/
def Single (w : Accounts) : Prop :=
  ∀ u a t m n, w.account u = some a → a.role t m → a.role t n → m = n

/-- Who creates a role has none of its type, or the user who is looked up has one. -/
def Asks (shown : String → String) (w : Accounts) (held : Option String) : Request → Prop
  | .createRole sid t n => ∀ u a, held = some sid → w.owner sid = some (u, a) → n ≠ "" →
      w.Unused n → a.HasType t → w.HasType (shown u) t
  | _ => True

theorem single_noAccounts : noAccounts.Single := nofun

theorem single_answer (hw : w.Single) (hasks : w.Asks shown held req) :
    (w.answer shown held req).1.Single := by
  intro u b t m n hb hm hn
  obtain ⟨p, -, rfl⟩ | ⟨a, ha, hbecomes⟩ := answer_cases hb
  · exact absurd hm id
  · cases hbecomes with
    | kept | loggedIn => exact hw u _ t m n ha hm hn
    | added sid t' n' hreq hheld howner hne htype hunused =>
      subst hreq
      have hfree : ¬ a.HasType t' := fun h => htype (hasks u a hheld howner hne hunused h)
      obtain hm | ⟨rfl, rfl⟩ := hm <;> obtain hn | ⟨ht, rfl⟩ := hn
      · exact hw u a t m n ha hm hn
      · exact absurd ⟨m, ht ▸ hm⟩ hfree
      · exact absurd ⟨n, hn⟩ hfree
      · rfl

theorem asks_of_single (hafter : (w.answer shown held req).1.Single) : w.Asks shown held req := by
  cases req with
  | register | login | selectRole => trivial
  | createRole sid t n =>
    rintro u a hheld howner hne hunused ⟨m, hm⟩
    by_contra htype
    rw [answer, if_pos hheld, howner] at hafter
    dsimp only at hafter
    rw [if_pos ⟨hne, htype, hunused⟩] at hafter
    have hacc : (w.put u (a.addRole t n)).account u = some (a.addRole t n) := by
      rw [account_put, if_pos rfl]
    -- both names belong to the type now
    have hsame := hafter u _ t m n hacc (.inl hm) (.inr ⟨rfl, rfl⟩)
    rw [hsame] at hm
    exact hunused u a t (owns_of_owner howner).1 hm

theorem asks_of_whole (hw : w.Whole shown) : w.Asks shown held req := by
  cases req with
  | register | login | selectRole => trivial
  | createRole sid t n =>
    intro u a _ howner _ _ htype
    have hacc := (owns_of_owner howner).1
    rw [(hw u a hacc).1]
    exact ⟨a, hacc, htype⟩

end Single

end Accounts

end JiraGame.AccountMap
