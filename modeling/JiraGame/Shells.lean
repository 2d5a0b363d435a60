import JiraGame.Refinement

namespace JiraGame.Shells

open JiraGame.Scene JiraGame.Command JiraGame.DBServer JiraGame.Cache JiraGame.HallScene
open JiraGame.MainScene JiraGame.AccountScenes JiraGame.ServerState JiraGame.KeepAlive
open JiraGame.Server JiraGame.RoomTable JiraGame.Refinement JiraGame.Lib.Fails

def shell (e : CClientEntity) : CClientEntity := { e with roleInfo := {} }

/-- What a cache holds of the clients besides the lobby. -/
def shells (c : CCache) (s : SOCKET) : Option CClientEntity := (c.GetEntity s).map shell

variable {c c' : CCache} {out : Outbox} {s : SOCKET} {e : CClientEntity}

section Writes

theorem shells_of_entity (h : c.GetEntity s = some e) : shells c s = some (shell e) := by
  rw [shells, h]
  rfl

theorem shells_writeEntity (c : CCache) (s : SOCKET) (e : CClientEntity) :
    shells (c.writeEntity s e) = Function.update (shells c) s (some (shell e)) := by
  funext t
  by_cases ht : t = s
  · subst ht
    simp [shells, CCache.writeEntity, CCache.GetEntity]
  · rw [Function.update_of_ne ht]
    simp [shells, CCache.writeEntity, CCache.GetEntity, Std.TreeMap.getElem?_insert, Ne.symm ht]

theorem shells_eraseEntity (c : CCache) (s : SOCKET) :
    shells (c.EraseEntity s) = Function.update (shells c) s none := by
  funext t
  by_cases ht : t = s
  · subst ht
    simp [shells, CCache.EraseEntity, CCache.GetEntity]
  · rw [Function.update_of_ne ht]
    simp [shells, CCache.EraseEntity, CCache.GetEntity, Std.TreeMap.getElem?_erase, Ne.symm ht]

@[simp] theorem shells_writeRoleInfo (c : CCache) (s : SOCKET) (f : PlayerInfo → PlayerInfo) :
    shells (c.writeRoleInfo s f) = shells c := by
  rw [CCache.writeRoleInfo]
  cases h : c.GetEntity s with
  | none => rfl
  | some e =>
    have hshell : shell { e with roleInfo := f e.roleInfo } = shell e := rfl
    dsimp only
    rw [shells_writeEntity, hshell, ← shells_of_entity h, Function.update_eq_self]

@[simp] theorem shells_writeRoom (c : CCache) (k : Int) (r : RoomInfo) :
    shells (c.writeRoom k r) = shells c := rfl

@[simp] theorem shells_removeRoom (c : CCache) (k : Int) :
    shells (c.EntityRoomRemoveMember k) = shells c := rfl

@[simp] theorem shells_createRoom (c : CCache) (k : Int) (r : RoomInfo) :
    shells (c.CreateRoom k r) = shells c := by
  rw [CCache.CreateRoom]
  split <;> rfl

@[simp] theorem shells_addMember (c : CCache) (k : Int) (p : PlayerInfo) :
    shells (c.EntityRoomAddMember k p) = shells c := by
  rw [CCache.EntityRoomAddMember]
  split <;> rfl

end Writes

section Hall

variable {req : HallRequest} {rand : List Nat}

theorem CreateRoom_shells (h : CreateRoom s req rand c = .ok (c', out)) : shells c' = shells c := by
  rw [CreateRoom] at h
  split at h
  · cases h
    rfl
  · split at h
    · cases h
    · split at h
      · cases h
        rfl
      · split at h
        · cases h
        · cases h
          simp

theorem JoinTeam_shells (h : JoinTeam s req c = .ok (c', out)) : shells c' = shells c := by
  rw [JoinTeam] at h
  dsimp only at h
  split at h
  · cases h
  · split at h
    · split at h
      · cases h
      · cases h
        simp
    · cases h
      rfl

theorem leaveOwnRoom_shells (h : leaveOwnRoom s c = .ok (c', out)) : shells c' = shells c := by
  rw [leaveOwnRoom] at h
  dsimp only at h
  split at h
  · cases h
  · split at h
    · cases h
      rfl
    · split at h
      · cases h
        simp
      · split at h
        · cases h
          simp
        · split at h
          · cases h
          · cases h
            simp

theorem leaveNamedRoom_shells (e : CClientEntity) (r : RoomInfo) (p : PlayerInfo) :
    shells (leaveNamedRoom s e r p c).1 = shells c := by
  rw [leaveNamedRoom]
  split
  · simp
  · dsimp only
    split <;> simp

theorem JoinRoom_shells (h : JoinRoom s req c = .ok (c', out)) : shells c' = shells c := by
  rw [JoinRoom] at h
  dsimp only at h
  split at h
  · cases h
    rfl
  · split at h
    · cases h
    · cases h
    · split at h
      · have hc := congrArg Prod.fst (Except.ok.inj h)
        dsimp only at hc
        rw [← hc, leaveNamedRoom_shells]
      · split at h
        · cases h
          rfl
        · cases h
        · cases h
          simp

theorem LeaveRoom_shells (h : HallScene.LeaveRoom s c = .ok (c', out)) : shells c' = shells c := by
  obtain ⟨o, hl⟩ := LeaveRoom_leaves h
  exact leaveOwnRoom_shells hl

theorem GameWaite_shells (h : GameWaite s c = .ok (c', out)) : shells c' = shells c := by
  obtain ⟨e, r, -, -, rfl⟩ := GameWaite_spec h
  simp

theorem hallLogic_shells (h : hallLogic s req rand c = .ok (c', out)) : shells c' = shells c := by
  rw [hallLogic] at h
  split at h
  · cases hm : req.msgtype <;> simp only [hm] at h
    case HST_CreateRoom => exact CreateRoom_shells h
    case HST_JoinTeam => exact JoinTeam_shells h
    case HST_JoinRoom => exact JoinRoom_shells h
    case HST_LeaveRoom => exact LeaveRoom_shells h
    case HST_GameWaite => exact GameWaite_shells h
    case HST_GameStart =>
      obtain ⟨-, -, -, -, -, -, rfl, -⟩ := GameStart_spec h
      rfl
    case HST_GetRoomList => rw [GetRoomList_cache h]
    case HST_RequestTeam =>
      rw [RequestTeam] at h
      dsimp only at h
      split at h <;> cases h
      rfl
    all_goals
      cases h
      rfl
  · cases h
    rfl

end Hall

section Main

variable {req : GameMainRequest}

theorem rsync_shells {msgtype : GameMainMsgType} (h : rsync msgtype s req c = .ok (c', out)) :
    shells c' = shells c := by
  rw [rsync] at h
  split at h
  · cases h
  · split at h
    · cases h
      rfl
    · cases h
      simp

theorem clearMembers_shells {ps : List PlayerInfo} (h : clearMembers ps c = .ok c') :
    shells c' = shells c := by
  induction ps generalizing c with
  | nil =>
    cases h
    rfl
  | cons p ps ih =>
    rw [clearMembers] at h
    split at h
    · cases h
    · rw [ih h, shells_writeRoleInfo]

theorem GameOver_shells (h : GameOver s c = .ok (c', out)) : shells c' = shells c := by
  rw [GameOver] at h
  split at h
  · cases h
  · dsimp only at h
    split at h
    · cases h
      rfl
    · obtain ⟨d, hc, h⟩ := of_bind_ok h
      cases h
      rw [shells_removeRoom, clearMembers_shells hc]

theorem MainLogic_shells (h : MainLogic s req c = .ok (c', out)) : shells c' = shells c := by
  rw [MainLogic] at h
  split at h
  · cases hm : req.msgtype <;> simp only [hm] at h
    case GMT_RsyncAttr => exact rsync_shells h
    case GMT_RsyncStatus => exact rsync_shells h
    case GMT_GameOver => exact GameOver_shells h
    all_goals
      cases h
      rfl
  · cases h
    rfl

end Main

section Account

variable {DB : Type} {sqlite : Sqlite DB} {db db' : DB}

theorem SelectLogic_shells {req : SelectRoleRequest}
    (h : SelectLogic sqlite s req db c = .ok (db', c', out)) : shells c' = shells c := by
  rw [SelectLogic] at h
  split at h
  · dsimp only at h
    split at h
    · cases h
      simp
    · split at h
      · cases h
      · cases h
        simp
  · cases h
    rfl

def loginOf (sqlite : Sqlite DB) (req : LoginRequest) (rand : List Nat) (db : DB) : Option String :=
  match userRow sqlite db req.username req.password with
  | .error _ => none
  | .ok x =>
    match firstRow x.2 with
    | none => none
    | some _ => sessionOf req.username rand

theorem LoginLogic_shells {req : LoginRequest} {rand : List Nat} (he : c.GetEntity s = some e)
    (h : LoginLogic sqlite s req rand db c = .ok (db', c', out)) : shells c' =
      match loginOf sqlite req rand db with
      | none => shells c
      | some sid => Function.update (shells c) s (some (shell { e with SessionID := sid })) := by
  obtain ⟨x, hu, h⟩ := of_bind_ok h
  rw [loginOf, hu]
  dsimp only at h ⊢
  cases hf : firstRow x.2 with
  | none =>
    simp only [hf] at h ⊢
    cases h
    rfl
  | some row =>
    simp only [hf] at h ⊢
    cases hsid : sessionOf req.username rand with
    | none => simp [hsid] at h
    | some sid =>
      simp only [hsid, he] at h ⊢
      obtain ⟨y, -, h⟩ := of_bind_ok h
      cases h
      exact shells_writeEntity c s _

theorem ProcessMsgLogic_shells {st st' : Process DB} {m : UnPacket} {rand : List Nat}
    (he : st.cache.GetEntity s = some e) (hm : m.curscene ≠ .CS_KeepAlive)
    (h : ProcessMsgLogic sqlite s m rand st = .ok (st', out)) : shells st'.cache =
      match (if m.curscene = .CS_Login then loginOf sqlite m.loginrequest rand st.db else none) with
      | none => shells st.cache
      | some sid => Function.update (shells st.cache) s (some (shell { e with SessionID := sid })) := by
  rw [ProcessMsgLogic] at h
  cases hscene : m.curscene <;> simp only [hscene, reduceCtorEq, if_false, if_true] at h ⊢
  case CS_KeepAlive => exact absurd hscene hm
  case CS_Login =>
    obtain ⟨x, hx, h⟩ := of_bind_ok h
    cases h
    exact LoginLogic_shells he hx
  case CS_CreateRole =>
    obtain ⟨x, hx, h⟩ := of_bind_ok h
    cases h
    rw [CreateLogic_cache hx]
  case CS_Register =>
    split at h
    · cases h
      rfl
    · obtain ⟨x, hx, h⟩ := of_bind_ok h
      cases h
      rw [RegisterLogic_cache hx]
  case CS_SelectRole =>
    obtain ⟨x, hx, h⟩ := of_bind_ok h
    cases h
    exact SelectLogic_shells hx
  case CS_WaitRoom =>
    obtain ⟨x, hx, h⟩ := of_bind_ok h
    cases h
    exact hallLogic_shells hx
  case CS_MainScene =>
    obtain ⟨x, hx, h⟩ := of_bind_ok h
    cases h
    exact MainLogic_shells hx
  all_goals
    cases h
    rfl

end Account

end JiraGame.Shells
