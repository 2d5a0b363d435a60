import JiraGame.AccountMap
import JiraGame.AccountTables

namespace JiraGame.AccountStore

open JiraGame.Utilitys JiraGame.AccountMap JiraGame.AccountTables JiraGame.Lib.Keyed

/-- A session id is a user name, an underscore and a text without underscores. -/
def Names (u sid : String) : Prop := ∃ digits : String, sid = u ++ "_" ++ digits ∧ '_' ∉ digits.toList

/-- A session id names one user, also where user names contain underscores. -/
theorem Names.inj {u v sid : String} (hu : Names u sid) (hv : Names v sid) : u = v := by
  obtain ⟨d, rfl, hd⟩ := hu
  obtain ⟨e, heq, he⟩ := hv
  have hlist := congrArg (fun x : String => x.toList.reverse) heq
  simp only [String.toList_append, List.reverse_append] at hlist
  -- the last underscore is the first one from the end
  obtain ⟨-, hname⟩ := @separator_inj _ '_' d.toList.reverse e.toList.reverse _ _
    (by simpa using hd) (by simpa using he) hlist
  exact String.toList_inj.mp (List.reverse_injective hname)

theorem Names.ne_empty {u sid : String} (h : Names u sid) : sid ≠ "" := by
  rintro rfl
  obtain ⟨digits, he, -⟩ := h
  have hlist := congrArg String.toList he
  simp at hlist

theorem underscore_not_mem (rand : List Nat) : '_' ∉ (GenrateRandomID rand).toList := by
  have hfold : ∀ (rand : List Nat) (acc : String), '_' ∉ acc.toList →
      '_' ∉ (rand.foldl (fun CServerRandomID r => CServerRandomID ++ toString (r % 10 + 1)) acc).toList := by
    intro rand
    induction rand with
    | nil => exact fun acc h => h
    | cons r rand ih =>
      intro acc h
      rw [List.foldl_cons]
      refine ih _ ?_
      rw [String.toList_append, List.mem_append, not_or]
      refine ⟨h, ?_⟩
      have htext : (toString (r % 10 + 1)).toList = Nat.toDigits 10 (r % 10 + 1) := Nat.toList_repr
      rw [htext]
      exact Nat.underscore_not_in_toDigits
  exact hfold rand "" List.not_mem_nil

/-- What holds of the rows of both tables between two requests. -/
structure Sound (σ : Store) : Prop where
  names : (σ.users.map UserRow.name).Nodup
  ids : (σ.users.map UserRow.userID).Nodup
  range : ∀ r ∈ σ.users, 1 ≤ r.userID ∧ r.userID ≤ σ.seq
  seq : 0 ≤ σ.seq
  linked : ∀ r ∈ σ.users, r.PlayerInfoID = some r.userID
  sessions : ∀ r ∈ σ.users, ∀ sid, r.session_id = some sid → Names r.name sid
  roleNames : (σ.players.map PlayerRow.name).Nodup
  owners : ∀ p ∈ σ.players, ∃ r ∈ σ.users, r.userID = p.roleID

def accountOf (σ : Store) (r : UserRow) : Account where
  id := r.userID
  password := r.password
  session := r.session_id
  role := fun t n => ∃ p ∈ σ.players, p.roleID = r.userID ∧ p.roleType = t ∧ p.name = n

def accounts (σ : Store) : Accounts where
  count := σ.seq
  account := fun u => (σ.users.find? fun r => r.name = u).map (accountOf σ)

theorem sound_empty : Sound {} := by
  constructor <;> simp [Store.users, Store.players, Store.seq]

section Read

variable {σ : Store} {r : UserRow} {u sid : String} {a : Account} {t : Int} {n : String}

theorem account_eq_some (h : Sound σ) :
    (accounts σ).account u = some a ↔ ∃ r ∈ σ.users, r.name = u ∧ accountOf σ r = a := by
  rw [accounts, Option.map_eq_some_iff]
  refine exists_congr fun r => ?_
  rw [find_iff h.names, and_assoc]

theorem account_eq_none : (accounts σ).account u = none ↔ ∀ r ∈ σ.users, r.name ≠ u := by
  rw [accounts, Option.map_eq_none_iff]
  exact find_eq_none_iff

theorem role_iff : (accountOf σ r).role t n ↔
    ∃ p ∈ σ.players, p.roleID = r.userID ∧ p.roleType = t ∧ p.name = n := Iff.rfl

theorem hasType_iff : (accountOf σ r).HasType t ↔
    ∃ p ∈ σ.players, p.roleID = r.userID ∧ p.roleType = t := by
  refine ⟨?_, ?_⟩
  · rintro ⟨n, p, hp, hid, ht, -⟩
    exact ⟨p, hp, hid, ht⟩
  · rintro ⟨p, hp, hid, ht⟩
    exact ⟨p.name, p, hp, hid, ht, rfl⟩

theorem owns_iff (h : Sound σ) {x : String × Account} : (accounts σ).Owns sid x ↔
    ∃ r ∈ σ.users, r.session_id = some sid ∧ x = (r.name, accountOf σ r) := by
  rw [Accounts.Owns, account_eq_some h]
  refine ⟨?_, ?_⟩
  · rintro ⟨⟨r, hr, hname, ha⟩, hs⟩
    rw [← ha] at hs
    exact ⟨r, hr, hs, by rw [hname, ha]⟩
  · rintro ⟨r, hr, hs, rfl⟩
    exact ⟨⟨r, hr, rfl, rfl⟩, hs⟩

theorem session_inj (h : Sound σ) {r r' : UserRow} (hr : r ∈ σ.users) (hr' : r' ∈ σ.users)
    (hs : r.session_id = some sid) (hs' : r'.session_id = some sid) : r = r' :=
  List.inj_on_of_nodup_map h.names hr hr' ((h.sessions r hr sid hs).inj (h.sessions r' hr' sid hs'))

theorem owner_of_row (h : Sound σ) (hr : r ∈ σ.users) (hs : r.session_id = some sid) :
    (accounts σ).owner sid = some (r.name, accountOf σ r) := by
  refine Accounts.owner_eq ((owns_iff h).mpr ⟨r, hr, hs, rfl⟩) ?_
  intro y hy
  obtain ⟨r', hr', hs', rfl⟩ := (owns_iff h).mp hy
  rw [session_inj h hr hr' hs hs']

theorem owner_of_no_row (h : Sound σ) (hno : ∀ r ∈ σ.users, r.session_id ≠ some sid) :
    (accounts σ).owner sid = none := by
  refine Accounts.owner_eq_none fun x hx => ?_
  obtain ⟨r, hr, hs, -⟩ := (owns_iff h).mp hx
  exact hno r hr hs

theorem unused_iff (h : Sound σ) : (accounts σ).Unused n ↔ ∀ p ∈ σ.players, p.name ≠ n := by
  refine ⟨fun hu p hp hn => ?_, fun hu v a t ha hrole => ?_⟩
  · obtain ⟨r, hr, hid⟩ := h.owners p hp
    exact hu r.name (accountOf σ r) p.roleType ((account_eq_some h).mpr ⟨r, hr, rfl, rfl⟩)
      ⟨p, hp, hid.symm, rfl, hn⟩
  · obtain ⟨r, -, -, rfl⟩ := (account_eq_some h).mp ha
    obtain ⟨p, hp, -, -, hn⟩ := hrole
    exact hu p hp hn

/-- The roles of an account have different types where the rows of `playerInfo` have
different pairs of owner and type. -/
theorem single_iff (h : Sound σ) :
    (accounts σ).Single ↔ (σ.players.map fun p => (p.roleID, p.roleType)).Nodup := by
  have hplayers : σ.players.Nodup := List.Nodup.of_map _ h.roleNames
  refine ⟨fun hsingle => hplayers.map_on fun p hp q hq he => ?_, fun htypes => ?_⟩
  · obtain ⟨hid, ht⟩ := Prod.mk.inj he
    obtain ⟨r, hr, hrid⟩ := h.owners p hp
    have hname : p.name = q.name := hsingle r.name (accountOf σ r) p.roleType p.name q.name
      ((account_eq_some h).mpr ⟨r, hr, rfl, rfl⟩) ⟨p, hp, hrid.symm, rfl, rfl⟩
      ⟨q, hq, by rw [hrid, hid], ht.symm, rfl⟩
    exact List.inj_on_of_nodup_map h.roleNames hp hq hname
  · intro u a t m n ha hm hn
    obtain ⟨r, -, -, rfl⟩ := (account_eq_some h).mp ha
    obtain ⟨p, hp, hid, ht, rfl⟩ := hm
    obtain ⟨q, hq, hid', ht', rfl⟩ := hn
    have hsame : (p.roleID, p.roleType) = (q.roleID, q.roleType) := by rw [hid, ht, hid', ht']
    rw [List.inj_on_of_nodup_map htypes hp hq hsame]

end Read

section Operations

variable {σ σ' : Store} {r : UserRow} {u p sid n : String} {t : Int}

theorem Sound.congr (h : Sound σ) (hu : σ'.users = σ.users) (hs : σ'.seq = σ.seq)
    (hp : σ'.players = σ.players) : Sound σ' where
  names := hu ▸ h.names
  ids := hu ▸ h.ids
  range := by
    rw [hu, hs]
    exact h.range
  seq := hs ▸ h.seq
  linked := hu ▸ h.linked
  sessions := hu ▸ h.sessions
  roleNames := hp ▸ h.roleNames
  owners := by
    rw [hu, hp]
    exact h.owners

theorem accounts_congr (hu : σ'.users = σ.users) (hs : σ'.seq = σ.seq)
    (hp : σ'.players = σ.players) : accounts σ' = accounts σ := by
  have hof : accountOf σ' = accountOf σ := by
    funext r
    rw [accountOf, accountOf, hp]
  rw [accounts, accounts, hu, hs, hof]

def newUser (σ : Store) (u p : String) : UserRow where
  userID := σ.seq + 1
  PlayerInfoID := some (σ.seq + 1)
  name := u
  password := p

structure Registers (σ σ' : Store) (u p : String) : Prop where
  users : σ'.users = σ.users ++ [newUser σ u p]
  seq : σ'.seq = σ.seq + 1
  players : σ'.players = σ.players

theorem registers_link (hnew : ∀ r ∈ σ.users, r.name ≠ u) :
    Registers σ ((σ.createUsers.addUser u p).link u) u p where
  users := by
    have hold : edit UserRow.name u (fun r => { r with PlayerInfoID := some r.userID }) σ.users =
        σ.users := by
      rw [edit]
      refine (List.map_congr_left fun r hr => ?_).trans (List.map_id _)
      exact if_neg (hnew r hr)
    have hlinked : ((σ.createUsers.addUser u p).link u).users =
        edit UserRow.name u (fun r => { r with PlayerInfoID := some r.userID })
          (σ.users ++ [{ userID := σ.seq + 1, name := u, password := p }]) := rfl
    have hnewrow : edit UserRow.name u (fun r => { r with PlayerInfoID := some r.userID })
        [{ userID := σ.seq + 1, name := u, password := p }] = [newUser σ u p] := by
      simp [edit, newUser]
    rw [hlinked, edit_append, hold, hnewrow]
  seq := rfl
  players := rfl

theorem Registers.sound (h : Registers σ σ' u p) (hs : Sound σ) (hnew : ∀ r ∈ σ.users, r.name ≠ u) :
    Sound σ' where
  names := by
    rw [h.users]
    exact nodup_concat.mpr ⟨hs.names, hnew⟩
  ids := by
    rw [h.users]
    refine nodup_concat.mpr ⟨hs.ids, fun r hr he => ?_⟩
    have hle := (hs.range r hr).2
    have hid : r.userID = σ.seq + 1 := he
    omega
  range := by
    rw [h.users, h.seq]
    intro r hr
    obtain hr | hr := List.mem_append.mp hr
    · have hrange := hs.range r hr
      omega
    · rw [List.mem_singleton.mp hr, newUser]
      have hseq := hs.seq
      dsimp only
      omega
  seq := by
    have hseq := hs.seq
    rw [h.seq]
    omega
  linked := by
    rw [h.users]
    intro r hr
    obtain hr | hr := List.mem_append.mp hr
    · exact hs.linked r hr
    · rw [List.mem_singleton.mp hr]
      rfl
  sessions := by
    rw [h.users]
    intro r hr sid hsid
    obtain hr | hr := List.mem_append.mp hr
    · exact hs.sessions r hr sid hsid
    · rw [List.mem_singleton.mp hr] at hsid
      cases hsid
  roleNames := h.players ▸ hs.roleNames
  owners := by
    rw [h.users, h.players]
    intro p hp
    obtain ⟨r, hr, hid⟩ := hs.owners p hp
    exact ⟨r, List.mem_append_left _ hr, hid⟩

theorem Registers.accounts (h : Registers σ σ' u p) (hs : Sound σ)
    (hnew : ∀ r ∈ σ.users, r.name ≠ u) : accounts σ' =
      { count := σ.seq + 1,
        account := Function.update (AccountStore.accounts σ).account u
          (some { id := σ.seq + 1, password := p }) } := by
  have hof : accountOf σ' = accountOf σ := by
    funext r
    rw [accountOf, accountOf, h.players]
  -- no role belongs to the new id
  have hfresh : accountOf σ (newUser σ u p) = { id := σ.seq + 1, password := p } := by
    have hrole : (accountOf σ (newUser σ u p)).role = fun _ _ => False := by
      funext t n
      refine eq_false ?_
      rintro ⟨q, hq, hid, -⟩
      obtain ⟨r, hr, hrid⟩ := hs.owners q hq
      have hle := (hs.range r hr).2
      have hnewid : q.roleID = σ.seq + 1 := hid
      omega
    have heta : accountOf σ (newUser σ u p) =
        { id := σ.seq + 1, password := p, role := (accountOf σ (newUser σ u p)).role } := rfl
    rw [heta, hrole]
  apply Accounts.ext
  · exact h.seq
  · funext v
    rw [AccountStore.accounts, h.users, hof]
    dsimp only
    rw [List.find?_append, Option.map_or]
    by_cases hv : v = u
    · subst hv
      have hnone : σ.users.find? (fun r => r.name = v) = none := find_eq_none_iff.mpr hnew
      have hself : [newUser σ v p].find? (fun r => r.name = v) = some (newUser σ v p) := by
        simp [newUser]
      rw [Function.update_self, hnone, hself, Option.map_some, hfresh]
      rfl
    · have hother : [newUser σ u p].find? (fun r => r.name = v) = none := by
        simpa [newUser] using fun he => hv he.symm
      rw [Function.update_of_ne hv, hother, AccountStore.accounts]
      simp

/-- The update that links a user changes nothing for a known one. -/
theorem users_link (hs : Sound σ) : (σ.createUsers.link u).users = σ.users := by
  have hlinked : (σ.createUsers.link u).users =
      edit UserRow.name u (fun r => { r with PlayerInfoID := some r.userID }) σ.users := rfl
  rw [hlinked, edit]
  refine (List.map_congr_left fun r hr => ?_).trans (List.map_id _)
  split
  · rw [← hs.linked r hr]
    rfl
  · rfl

section Session

theorem users_setSession : (σ.setSession u sid).users =
    edit UserRow.name u (fun r => { r with session_id := some sid }) σ.users := by
  rw [Store.setSession, Store.editUser, Store.users, Store.users]
  cases σ.users? <;> rfl

theorem seq_setSession : (σ.setSession u sid).seq = σ.seq := by
  rw [Store.setSession, Store.editUser, Store.seq, Store.seq]
  cases σ.users? <;> rfl

theorem players_setSession : (σ.setSession u sid).players = σ.players := rfl

theorem sound_setSession (hs : Sound σ) (hsid : Names u sid) : Sound (σ.setSession u sid) where
  names := by
    rw [users_setSession, map_edit]
    · exact hs.names
    · exact fun r => rfl
  ids := by
    rw [users_setSession, map_edit]
    · exact hs.ids
    · exact fun r => rfl
  range := by
    rw [users_setSession, seq_setSession]
    intro r hr
    obtain ⟨y, hy, -, rfl⟩ | ⟨hr, -⟩ := mem_edit_iff.mp hr
    · exact hs.range y hy
    · exact hs.range r hr
  seq := seq_setSession.symm ▸ hs.seq
  linked := by
    rw [users_setSession]
    intro r hr
    obtain ⟨y, hy, -, rfl⟩ | ⟨hr, -⟩ := mem_edit_iff.mp hr
    · exact hs.linked y hy
    · exact hs.linked r hr
  sessions := by
    rw [users_setSession]
    intro r hr sid' hsid'
    obtain ⟨y, -, hname, rfl⟩ | ⟨hr, -⟩ := mem_edit_iff.mp hr
    · -- a row with the user's name has the new session id
      cases hsid'
      rw [← hname] at hsid
      exact hsid
    · exact hs.sessions r hr sid' hsid'
  roleNames := hs.roleNames
  owners := by
    rw [players_setSession, users_setSession]
    intro p hp
    obtain ⟨r, hr, hid⟩ := hs.owners p hp
    by_cases hname : r.name = u
    · exact ⟨_, mem_edit_iff.mpr (.inl ⟨r, hr, hname, rfl⟩), hid⟩
    · exact ⟨r, mem_edit_iff.mpr (.inr ⟨hr, hname⟩), hid⟩

theorem accounts_setSession (hs : Sound σ) (hr : r ∈ σ.users) :
    accounts (σ.setSession r.name sid) =
      (accounts σ).put r.name { accountOf σ r with session := some sid } := by
  apply Accounts.ext
  · exact seq_setSession
  · funext v
    have hfind : ((σ.setSession r.name sid).users.find? fun y => y.name = v) =
        (σ.users.find? fun y => y.name = v).map fun y =>
          if v = r.name then { y with session_id := some sid } else y := by
      rw [users_setSession, find_edit]
      exact fun y => rfl
    rw [accounts]
    dsimp only
    rw [hfind, Option.map_map, Accounts.put]
    dsimp only
    by_cases hv : v = r.name
    · subst hv
      rw [(find_iff hs.names).mpr ⟨hr, rfl⟩, Function.update_self, Option.map_some, Function.comp,
        if_pos rfl]
      rfl
    · rw [Function.update_of_ne hv, accounts]
      simp only [Function.comp_def, if_neg hv]
      rfl

end Session

section Role

variable (σ) in
theorem players_addRole (id : Int) : (σ.createPlayers.addRole id t n).players =
    σ.players ++ [{ roleID := id, roleType := t, name := n }] := rfl

theorem sound_addRole (hs : Sound σ) (hr : r ∈ σ.users) (hname : ∀ p ∈ σ.players, p.name ≠ n) :
    Sound (σ.createPlayers.addRole r.userID t n) where
  names := hs.names
  ids := hs.ids
  range := hs.range
  seq := hs.seq
  linked := hs.linked
  sessions := hs.sessions
  roleNames := by
    rw [players_addRole]
    exact nodup_concat.mpr ⟨hs.roleNames, hname⟩
  owners := by
    rw [players_addRole]
    intro p hp
    obtain hp | hp := List.mem_append.mp hp
    · exact hs.owners p hp
    · rw [List.mem_singleton.mp hp]
      exact ⟨r, hr, rfl⟩

theorem role_addRole {x : UserRow} {t' : Int} {m : String} :
    (accountOf (σ.createPlayers.addRole r.userID t n) x).role t' m ↔
      (accountOf σ x).role t' m ∨ r.userID = x.userID ∧ t = t' ∧ n = m := by
  rw [role_iff, role_iff, players_addRole]
  simp [or_and_right, exists_or]

theorem accountOf_addRole :
    accountOf (σ.createPlayers.addRole r.userID t n) r = (accountOf σ r).addRole t n := by
  apply Account.ext
  · rfl
  · rfl
  · rfl
  · funext t' m
    rw [role_addRole, eq_iff_iff, Account.role_addRole]
    simp [eq_comm]

theorem accounts_addRole (hs : Sound σ) (hr : r ∈ σ.users) :
    accounts (σ.createPlayers.addRole r.userID t n) =
      (accounts σ).put r.name ((accountOf σ r).addRole t n) := by
  apply Accounts.ext
  · rfl
  · funext v
    rw [Accounts.put]
    dsimp only
    rw [accounts]
    have husers : (σ.createPlayers.addRole r.userID t n).users = σ.users := rfl
    rw [husers]
    dsimp only
    by_cases hv : v = r.name
    · subst hv
      rw [(find_iff hs.names).mpr ⟨hr, rfl⟩, Function.update_self, Option.map_some]
      exact congrArg some accountOf_addRole
    · rw [Function.update_of_ne hv, accounts]
      dsimp only
      cases hfind : σ.users.find? fun r => r.name = v with
      | none => rfl
      | some x =>
        obtain ⟨hx, hxv⟩ := (find_iff hs.names).mp hfind
        rw [Option.map_some, Option.map_some]
        refine congrArg some ?_
        -- the row of another user has another id
        have hid : r.userID ≠ x.userID := by
          intro he
          have hsame := List.inj_on_of_nodup_map hs.ids hr hx he
          exact hv (by rw [← hxv, hsame])
        apply Account.ext
        · rfl
        · rfl
        · rfl
        · funext t' m
          rw [role_addRole, eq_iff_iff]
          simp [hid]

end Role

end Operations

end JiraGame.AccountStore
