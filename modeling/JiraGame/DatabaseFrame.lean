import JiraGame.ProcessFrame

namespace JiraGame.DatabaseFrame

open JiraGame.Scene JiraGame.Command JiraGame.DBServer JiraGame.Cache JiraGame.HallScene
open JiraGame.MainScene JiraGame.AccountScenes JiraGame.ServerState JiraGame.KeepAlive
open JiraGame.Server JiraGame.ProcessFrame JiraGame.Lib.Fails

variable {DB : Type} {sqlite : Sqlite DB} {st st' : Process DB} {s : SOCKET} {m : UnPacket}
  {rand : List Nat} {out : Outbox}

theorem Start_db (h : Start s m st = .ok (st', out)) : st'.db = st.db := by
  obtain ⟨_, _, _, _, _, rfl⟩ := Start_frame h
  rfl

theorem poll_db {j now : Nat} (h : poll j now st = .ok (st', out)) : st'.db = st.db := by
  obtain ⟨_, _, _, _, _, _, rfl⟩ := poll_frame h
  rfl

theorem StartCServer_db {junk : Int} (h : StartCServer s junk st = .ok st') : st'.db = st.db := by
  obtain ⟨_, _, _, _, rfl⟩ := StartCServer_frame h
  rfl

theorem db_of_deliver {x : Process DB × Outbox} (h : deliver x = (st', out)) : st'.db = x.1.db := by
  obtain ⟨_, rfl⟩ := of_deliver h
  rfl

theorem step_db {a : Action} (h : step sqlite st a = .ok (st', out)) : st'.db = st.db ∨
    ∃ s m rand x, a = .packet s m rand ∧ readable s st = true ∧
      (st.cache.GetEntity s).isSome = true ∧ ProcessMsgLogic sqlite s m rand st = .ok x ∧
      deliver x = (st', out) := by
  cases a with
  | accept s junk =>
    obtain ⟨st₁, hs, h⟩ := of_map_ok h
    cases h
    exact .inl (StartCServer_db hs)
  | close s =>
    simp only [step] at h
    left
    split at h <;> cases h <;> rfl
  | packet s m rand =>
    obtain ⟨x, hp, h⟩ := of_map_ok h
    rw [receive] at hp
    split at hp
    · rename_i hr
      cases he : st.cache.GetEntity s with
      | none =>
        simp only [he] at hp
        cases hp
        exact .inl (db_of_deliver h)
      | some e =>
        simp only [he] at hp
        exact .inr ⟨s, m, rand, x, rfl, hr, by rw [he]; rfl, hp, h⟩
    · cases hp
      exact .inl (db_of_deliver h)
  | poll j now =>
    obtain ⟨x, hp, h⟩ := of_map_ok h
    left
    rw [db_of_deliver h]
    exact poll_db hp

end JiraGame.DatabaseFrame
