import JiraGame.AccountRefinement

namespace JiraGame.AccountRows

open JiraGame.DBServer JiraGame.ServerState JiraGame.Server JiraGame.Session
open JiraGame.StatementMeanings JiraGame.AccountMap JiraGame.AccountTables JiraGame.AccountStore
open JiraGame.RelationalSqlite JiraGame.AccountRefinement JiraGame.Lib.SqlMeaning

/-- A row of `userInfo` has this id and name. -/
def HasUser (T : Tables) (id : Int) (u : String) : Prop :=
  ∃ users, T userInfo = some users ∧ ∃ row ∈ users.rows, cell 0 row = .int id ∧ cell 3 row = text u

/-- A row of `playerInfo` has this type and name, and its `roleID` is the
`PlayerInfoID` of the row of `userInfo` with this id. -/
def HasRole (T : Tables) (id t : Int) (n : String) : Prop :=
  ∃ users players, T userInfo = some users ∧ T playerInfo = some players ∧
    ∃ row ∈ users.rows, ∃ role ∈ players.rows, cell 0 row = .int id ∧
      equal (cell 1 row) (cell 0 role) = true ∧ cell 1 role = .int t ∧ cell 3 role = text n

section Store

variable {σ : Store} {id t : Int} {u n : String}

theorem hasUser_tables : HasUser σ.tables id u ↔ ∃ r ∈ σ.users, r.userID = id ∧ r.name = u := by
  rw [HasUser, σ.tables_userInfo]
  cases hu : σ.users? with
  | none => simp [Store.users, hu]
  | some users =>
    have hrows : σ.users = users.rows := by
      rw [Store.users, hu]
      rfl
    simp [hrows, Store.userTable, cell, UserRow.cells, text_inj]

theorem hasRole_tables (hs : Sound σ) : HasRole σ.tables id t n ↔
    ∃ r ∈ σ.users, r.userID = id ∧ (accountOf σ r).role t n := by
  have hjoin : ∀ r ∈ σ.users, ∀ p : PlayerRow,
      equal (cell 1 r.cells) (cell 0 p.cells) = true ↔ p.roleID = r.userID := by
    intro r hr p
    rw [show cell 1 r.cells = intCell r.PlayerInfoID from rfl, hs.linked r hr]
    simp [intCell, cell, PlayerRow.cells, eq_comm]
  rw [HasRole, σ.tables_userInfo, σ.tables_playerInfo]
  refine ⟨?_, ?_⟩
  · rintro ⟨users, players, hu, hp, row, hrow, role, hrole, hid, heq, ht, hn⟩
    obtain ⟨ut, hut, rfl⟩ := Option.map_eq_some_iff.mp hu
    obtain ⟨ps, hps, rfl⟩ := Option.map_eq_some_iff.mp hp
    obtain ⟨r, hr, rfl⟩ := List.mem_map.mp hrow
    obtain ⟨p, hp, rfl⟩ := List.mem_map.mp hrole
    have hr' : r ∈ σ.users := by
      rw [Store.users, hut]
      exact hr
    have hp' : p ∈ σ.players := by
      rw [Store.players, hps]
      exact hp
    exact ⟨r, hr', Value.int.inj hid, p, hp', (hjoin r hr' p).mp heq, Value.int.inj ht,
      text_inj.mp hn⟩
  · rintro ⟨r, hr, rfl, p, hp, hid, rfl, rfl⟩
    obtain ⟨ut, hut⟩ := AccountReplies.users?_of_mem hr
    have hr' : r ∈ ut.rows := by
      rw [Store.users, hut] at hr
      exact hr
    cases hps : σ.players? with
    | none =>
      rw [Store.players, hps] at hp
      cases hp
    | some ps =>
      have hp' : p ∈ ps := by
        rw [Store.players, hps] at hp
        exact hp
      rw [hut]
      exact ⟨_, _, rfl, rfl, r.cells, List.mem_map_of_mem hr', p.cells, List.mem_map_of_mem hp', rfl,
        (hjoin r hr p).mpr hid, rfl, rfl⟩

end Store

section Stored

variable {DB : Type} {view : DB → Tables} {st : Process DB} {w : Accounts} {id t : Int} {u n : String}

theorem hasUser_iff (h : Stored view w st) :
    HasUser (view st.db) id u ↔ ∃ a, w.account u = some a ∧ a.id = id := by
  obtain ⟨σ, hv, hs, rfl⟩ := h
  rw [hv, hasUser_tables]
  refine ⟨?_, ?_⟩
  · rintro ⟨r, hr, rfl, rfl⟩
    exact ⟨accountOf σ r, (account_eq_some hs).mpr ⟨r, hr, rfl, rfl⟩, rfl⟩
  · rintro ⟨a, ha, rfl⟩
    obtain ⟨r, hr, hname, rfl⟩ := (account_eq_some hs).mp ha
    exact ⟨r, hr, rfl, hname⟩

theorem hasUser_inj {v : String} (h : Stored view w st) (hu : HasUser (view st.db) id u)
    (hv : HasUser (view st.db) id v) : u = v := by
  obtain ⟨σ, hσ, hs, -⟩ := h
  rw [hσ, hasUser_tables] at hu hv
  obtain ⟨r, hr, hid, rfl⟩ := hu
  obtain ⟨r', hr', hid', rfl⟩ := hv
  rw [List.inj_on_of_nodup_map hs.ids hr hr' (hid.trans hid'.symm)]

theorem hasRole_inj {id' t' : Int} (h : Stored view w st) (hr : HasRole (view st.db) id t n)
    (hr' : HasRole (view st.db) id' t' n) : t = t' := by
  obtain ⟨σ, hσ, hs, -⟩ := h
  rw [hσ, hasRole_tables hs] at hr hr'
  obtain ⟨r, -, -, p, hp, -, rfl, hn⟩ := hr
  obtain ⟨r', -, -, p', hp', -, rfl, hn'⟩ := hr'
  rw [List.inj_on_of_nodup_map hs.roleNames hp hp' (hn.trans hn'.symm)]

theorem hasRole_iff (h : Stored view w st) :
    HasRole (view st.db) id t n ↔ ∃ u a, w.account u = some a ∧ a.id = id ∧ a.role t n := by
  obtain ⟨σ, hv, hs, rfl⟩ := h
  rw [hv, hasRole_tables hs]
  refine ⟨?_, ?_⟩
  · rintro ⟨r, hr, rfl, hn⟩
    exact ⟨r.name, accountOf σ r, (account_eq_some hs).mpr ⟨r, hr, rfl, rfl⟩, rfl, hn⟩
  · rintro ⟨u, a, ha, rfl, hn⟩
    obtain ⟨r, hr, -, rfl⟩ := (account_eq_some hs).mp ha
    exact ⟨r, hr, rfl, hn⟩

end Stored

section Steps

variable {DB : Type} {sqlite : Sqlite DB} {view : DB → Tables} {st st' : Process DB} {a : Action}
  {w : Accounts} {id t : Int} {u n : String}

theorem serve_extends (w : Accounts) (st : Process DB) (a : Action) :
    w.Extends (serve cString w st a) := by
  rw [serve]
  split
  · exact w.answer_extends _ _ _
  · exact Accounts.Extends.refl w

theorem hasUser_step (hrel : Relational sqlite view) (hw : Stored view w st)
    (h : Steps sqlite st a st') (hu : HasUser (view st.db) id u) : HasUser (view st'.db) id u := by
  obtain ⟨out, h⟩ := h
  rw [hasUser_iff hw] at hu
  rw [hasUser_iff (stored_step hrel hw h)]
  obtain ⟨x, hx, rfl⟩ := hu
  obtain ⟨y, hy, hid, -⟩ := serve_extends w st a u x hx
  exact ⟨y, hy, hid⟩

theorem hasRole_step (hrel : Relational sqlite view) (hw : Stored view w st)
    (h : Steps sqlite st a st') (hr : HasRole (view st.db) id t n) :
    HasRole (view st'.db) id t n := by
  obtain ⟨out, h⟩ := h
  rw [hasRole_iff hw] at hr
  rw [hasRole_iff (stored_step hrel hw h)]
  obtain ⟨u, x, hx, rfl, hn⟩ := hr
  obtain ⟨y, hy, hid, hroles⟩ := serve_extends w st a u x hx
  exact ⟨u, y, hy, hid, hroles t n hn⟩

end Steps

end JiraGame.AccountRows
