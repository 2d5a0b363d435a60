import JiraGame.AccountRefinement
import JiraGame.BufferBounds
import JiraGame.SentPackets
import JiraGame.Session

namespace JiraGame.SendBuffer

open JiraGame.Scene JiraGame.Command JiraGame.DBServer JiraGame.Utilitys JiraGame.Cache
open JiraGame.HallScene JiraGame.AccountScenes JiraGame.ServerState JiraGame.Server
open JiraGame.Broadcasts JiraGame.Replies JiraGame.ReplySizes JiraGame.BufferBounds
open JiraGame.SentPackets
open JiraGame.AccountStatements hiding text
open JiraGame.Encoding
open JiraGame.RelationalSqlite JiraGame.AccountRefinement JiraGame.Session
open JiraGame.Runs JiraGame.Lib JiraGame.Lib.History JiraGame.Lib.ProtoMessage

section Fits

variable {DB : Type}

theorem size_registerPacket (t : RegisterReturnType) : ByteSize (registerPacket t) ≤ MSGSIZE := by
  rw [size_packet]
  simp only [registerPacket, Option.elim_none, Option.elim_some, size_registerReturn]
  decide

theorem size_selectPacket (r : SelectRoleReturn) : ByteSize (selectPacket r) ≤ MSGSIZE := by
  have hsize : ByteSize (selectPacket r) = flag + framed (selectRoleReturn.size r) := by
    rw [size_packet]
    simp [selectPacket]
  rw [hsize, framed_le_iff, size_selectRoleReturn]
  cases r.userid? with
  | none => exact Nat.zero_le _
  | some i => exact (number_le i).trans (by decide)

/-- No packet of a step is longer than the send buffer: neither one that is copied into
it nor one that is sent. -/
structure Fits (sqlite : Sqlite DB) (st : Process DB) (a : Action) : Prop where
  copied : ∀ p ∈ built sqlite st a, ByteSize p ≤ MSGSIZE
  sent : ∀ st' out, handled sqlite st a = .ok (st', out) → ∀ y ∈ out, ByteSize y.2 ≤ MSGSIZE

/-- The packets of a step fit, in whatever state it is taken, if and only if the request
and what is stored keep the bounds. -/
theorem replies_fit_iff (sqlite : Sqlite DB) (st : Process DB) (a : Action) :
    Fits sqlite st a ↔ Within sqlite st a := by
  rw [← built_fits_iff]
  refine ⟨Fits.copied, fun hcopied => ⟨hcopied, fun st' out h y hy => ?_⟩⟩
  obtain hy | ⟨t, ht⟩ | ⟨-, -, -, r, -, -, hr, -⟩ := handled_copied h y hy
  · exact hcopied y.2 hy
  · rw [ht]
    exact size_registerPacket t
  · rw [hr]
    exact size_selectPacket r

end Fits

section Example

def namedRoom (name : String) : UnPacket :=
  { curscene? := some .CS_WaitRoom
    hallrequest? := some
      { sessionid? := some "ann_111111", msgtype? := some .HST_CreateRoom, roomname? := some name } }

theorem size_namedRoom {name : String} (h : text name = 8171) :
    (unPacket.encode (namedRoom name)).length = 8190 := by
  have hsession : text "ann_111111" = 12 := by decide
  have hrequest : hallRequest.size { sessionid? := some "ann_111111"
                                     msgtype? := some .HST_CreateRoom
                                     roomname? := some name } = 8185 := by
    rw [Schema.size, Schema.length_encode]
    simp (disch := decide) [hallRequest, size_required, size_optional, hsession, h, flag]
  have hlong : framed 8185 = 8188 := framed_long (by omega) (by omega)
  rw [Schema.length_encode]
  simp (disch := decide) [unPacket, namedRoom, size_required, size_optional, hrequest, hlong, flag]

theorem size_answer {name : String} (h : text name = 8171) :
    ByteSize (hallPacket (createReturn name (111111, {}))) = 8194 := by
  have hid : number 111111 = 4 := by decide
  have hentry : framed (number ({} : PlayerInfo).roleid + text ({} : PlayerInfo).name +
      number ({} : PlayerInfo).roletype + 2 * flag) = 12 := by decide
  rw [size_hallPacket, size_createReturn, hid, hentry, h, flag, framed_long (by omega) (by omega)]

def annWaits (st : Process SqlMeaning.Tables) : Bool :=
  readable 7 st && st.cache.CheckEntityRoomIsOnly 111111 &&
    (st.cache.GetEntity 7).any fun e : CClientEntity =>
      decide (e.SessionID = "ann_111111") && decide (e.roleInfo = {})

theorem namedRoom_answer {st : Process SqlMeaning.Tables} (h : annWaits st = true) {name : String}
    (hname : name.length ≠ 0) :
    ∃ st', handled reference st (.packet 7 (namedRoom name) (List.replicate 12 0)) =
      .ok (st', [(7, hallPacket (createReturn name (111111, {})))]) := by
  simp only [annWaits, Bool.and_eq_true] at h
  obtain ⟨⟨hread, honly⟩, he⟩ := h
  obtain ⟨e, he, htest⟩ := (Option.any_eq_true _ _).mp he
  obtain ⟨hsid, hrole⟩ := Bool.and_eq_true_iff.mp htest
  have hvalid : st.cache.CheckSessionValid 7 "ann_111111" = true := by
    rw [CCache.CheckSessionValid, he]
    exact hsid
  have hid : GenrateOnlyRoomID st.cache (List.replicate 12 0) = some (111111, List.replicate 6 0) := by
    have hone : string2Int (GenrateRandomID [0, 0, 0, 0, 0, 0]) = 111111 := by decide
    simp only [List.replicate, GenrateOnlyRoomID, hone, honly, if_true]
  have hcreate : ∃ c', CreateRoom 7 (namedRoom name).hallrequest (List.replicate 12 0) st.cache =
      .ok (c', [(7, hallPacket (createReturn name (111111, {})))]) := by
    have hlength : ¬(namedRoom name).hallrequest.roomname.length ≤ 0 := by
      rw [Nat.le_zero]
      exact hname
    rw [CreateRoom, if_neg hlength]
    simp only [he, of_decide_eq_true hrole, hid]
    exact ⟨_, rfl⟩
  obtain ⟨c', hcreate⟩ := hcreate
  have hlogic : hallLogic 7 (namedRoom name).hallrequest (List.replicate 12 0) st.cache =
      .ok (c', [(7, hallPacket (createReturn name (111111, {})))]) := by
    have hs : st.cache.CheckSessionValid 7 (namedRoom name).hallrequest.sessionid = true := hvalid
    rw [hallLogic, if_pos hs]
    exact hcreate
  refine ⟨{ st with cache := c' }, ?_⟩
  rw [handled, receive, if_pos hread]
  have hscene : ProcessMsgLogic reference 7 (namedRoom name) (List.replicate 12 0) st =
      hallLogic 7 (namedRoom name).hallrequest (List.replicate 12 0) st.cache >>= fun x =>
        .ok ({ st with cache := x.1 }, x.2) := rfl
  simp only [he, hscene, hlogic]
  rfl

theorem utf8ByteSize_letters (n : Nat) : (String.ofList (List.replicate n 'a')).utf8ByteSize = n := by
  induction n with
  | zero => rfl
  | succ n ih =>
    rw [List.replicate_succ, String.ofList_cons, String.utf8ByteSize_append, ih,
      String.utf8ByteSize_singleton, Nat.add_comm]
    rfl

/-- Ann creates a room with a name of 8168 letters. Her request fits into the receive buffer,
but the answer, which repeats the name, does not fit into the send buffer. -/
theorem long_name_overflows : ∃ tr st name, ServerRun reference noTablesYet tr st ∧
    actions tr = [.accept 7 0, register 7 "ann" "pw", login 7 "ann" "pw"] ∧
    name = String.ofList (List.replicate 8168 'a') ∧
    Sendable (namedRoom name) ∧ (wire.SerializeToArray (namedRoom name)).length ≤ MSGSIZE ∧
    (∃ st' p, handled reference st (.packet 7 (namedRoom name) (List.replicate 12 0)) =
      .ok (st', [(7, p)]) ∧ ByteSize p = 8194) ∧
    ¬Fits reference st (.packet 7 (namedRoom name) (List.replicate 12 0)) := by
  obtain ⟨tr, st, hrun, hact, hwaits⟩ := exists_run reference noTablesYet
    [.accept 7 0, register 7 "ann" "pw", login 7 "ann" "pw"] (fun _ st => annWaits st)
    (by decide +kernel)
  obtain ⟨name, hname⟩ : ∃ name, name = String.ofList (List.replicate 8168 'a') := ⟨_, rfl⟩
  have hsize : name.utf8ByteSize = 8168 := by rw [hname, utf8ByteSize_letters]
  have htext : text name = 8171 := by
    rw [text, hsize, framed_long (by omega) (by omega)]
  have hlength : name.length ≠ 0 := by
    rw [hname, String.length_ofList, List.length_replicate]
    omega
  obtain ⟨st', hanswer⟩ := namedRoom_answer hwaits hlength
  refine ⟨tr, st, name, hrun, hact, hname, rfl, ?_, ⟨st', _, hanswer, size_answer htext⟩,
    fun hfits => ?_⟩
  · exact (Nat.le_of_eq (size_namedRoom htext)).trans (by decide)
  · have hle := hfits.sent st' _ hanswer _ List.mem_cons_self
    dsimp only at hle
    rw [size_answer htext] at hle
    exact absurd hle (by decide)

end Example

end JiraGame.SendBuffer
