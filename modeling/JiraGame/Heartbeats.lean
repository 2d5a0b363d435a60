import JiraGame.Shells

namespace JiraGame.Heartbeats

open JiraGame.Scene JiraGame.Command JiraGame.DBServer JiraGame.Cache JiraGame.HallScene
open JiraGame.ServerState JiraGame.KeepAlive JiraGame.Server JiraGame.ProcessFrame
open JiraGame.Refinement JiraGame.Shells JiraGame.Lib.Fails

/-- What the heartbeats use of an entity. -/
def pulse (e : CClientEntity) : CClientEntity := { e with SessionID := "", roleInfo := {} }

/-- What the heartbeats use of a process; the maps are functions. -/
@[ext] structure Heart where
  client : SOCKET → Option CClientEntity
  erased : List CClientEntity
  keepAliveInfo : SOCKET → Option Nat
  info : Nat → Option CKeepAliveInfo
  nextAddr : Nat
  loops : List TimerLoop
  preTime : Option Nat

variable {DB : Type}

def pulses (c : CCache) (s : SOCKET) : Option CClientEntity := (c.GetEntity s).map pulse

def heart (st : Process DB) : Heart where
  client := pulses st.cache
  erased := st.erased.map pulse
  keepAliveInfo := fun s => st.keepAliveInfoMap[s]?
  info := fun ptr => st.infos[ptr]?
  nextAddr := st.nextAddr
  loops := st.loops
  preTime := st.preTime

/-- What a step is to the heartbeats. Loop `j` looks at the clock, ends because it
was stopped, or calls back with the argument of its entity. -/
inductive Beat
  | rest
  | connect (s : SOCKET) (junk : Int)
  | reconnect (s : SOCKET)
  | keepAlive (s : SOCKET) (m : UnPacket)
  | look (j : Nat) (now : Nat)
  | finish (j : Nat)
  | tick (j : Nat) (now : Nat) (arg : Option Nat)

/-- A new entity, with what its memory held before. -/
def newcomer (addr : Nat) (s : SOCKET) (junk : Int) : CClientEntity :=
  { addr := addr, sockClient := s, m_iSendMsgCount := junk }

/-- An entity whose handle was accepted again. -/
def welcomed (e : CClientEntity) : CClientEntity :=
  StopTimerMutex { e with isBroken := false, m_HasThread := false }

def answered (e : CClientEntity) : CClientEntity := { e with m_iSendMsgCount := 0, isBroken := false }

def timed (ptr : Nat) (e : CClientEntity) : CClientEntity :=
  { e with m_pTimeFuncArg := some ptr, m_iDeltaTime := 1, m_HasThread := true,
           m_ThreadPower := false }

def counted (e : CClientEntity) : CClientEntity :=
  { e with isBroken := if leaveBand e then true else if breakBand e then false else e.isBroken
           m_iSendMsgCount := e.m_iSendMsgCount + 1 }

def evicted (e : CClientEntity) : CClientEntity := StopTimerMutex { e with isBroken := true }

namespace Heart

def setClient (h : Heart) (s : SOCKET) (o : Option CClientEntity) : Heart :=
  { h with client := Function.update h.client s o }

def setInfo (h : Heart) (ptr : Nat) (o : Option CKeepAliveInfo) : Heart :=
  { h with info := Function.update h.info ptr o }

def entity (h : Heart) (l : TimerLoop) : Option CClientEntity :=
  match h.client l.sockClient with
  | some e => if e.addr = l.self then some e else h.erased.find? (fun e => e.addr = l.self)
  | none => h.erased.find? (fun e => e.addr = l.self)

def turn (h : Heart) (j : Nat) (now : Nat) : Beat :=
  match h.loops[j]? with
  | none => .rest
  | some l =>
    match h.entity l with
    | none => .rest
    | some e =>
      if !l.running then .rest
      else if e.m_ThreadPower then .finish j
      else if h.preTime.getD now + e.m_iDeltaTime < now then .tick j now e.m_pTimeFuncArg
      else .look j now

def report (s : SOCKET) (m : UnPacket) (h : Heart) : Heart :=
  if m.keepalive.curscene = .CS_WaitRoom ∨ m.keepalive.curscene = .CS_MainScene then
    match h.keepAliveInfo s with
    | none => h
    | some ptr => h.setInfo ptr ((h.info ptr).map fun info => { info with RecMessage := m })
  else h

/-- Start a loop for the entity `e` on `s` with a new record. -/
def startLoop (s : SOCKET) (m : UnPacket) (e : CClientEntity) (h : Heart) : Heart :=
  { h with client := Function.update h.client s (some (timed h.nextAddr e))
           info := Function.update h.info h.nextAddr (some { clientSocket := s, RecMessage := m })
           keepAliveInfo := Function.update h.keepAliveInfo s (some h.nextAddr)
           nextAddr := h.nextAddr + 1
           loops := h.loops ++ [{ self := e.addr, sockClient := s }] }

/-- The entity on `s` leaves, and its record is deleted. -/
def dismiss (s : SOCKET) (ptr : Nat) (e : CClientEntity) (h : Heart) : Heart :=
  { (h.setClient s none).setInfo ptr none with erased := h.erased ++ [evicted e] }

def callBack (arg : Option Nat) (h : Heart) : Heart :=
  match arg with
  | none => h
  | some ptr =>
    match h.info ptr with
    | none => h
    | some info =>
      match h.client info.clientSocket with
      | none => h
      | some e =>
        if 30 ≤ e.m_iSendMsgCount then
          h.dismiss info.clientSocket ptr e
        else h.setClient info.clientSocket (some (counted e))

def apply (h : Heart) : Beat → Heart
  | .rest => h
  | .connect s junk =>
    { h.setClient s (some (newcomer h.nextAddr s junk)) with nextAddr := h.nextAddr + 1 }
  | .reconnect s => h.setClient s ((h.client s).map welcomed)
  | .keepAlive s m =>
    match h.client s with
    | none => h
    | some e =>
      if e.m_HasThread then (h.report s m).setClient s (some (answered e))
      else (h.report s m).startLoop s m (answered e)
  | .look _ now => { h with preTime := some (h.preTime.getD now) }
  | .finish j => { h with loops := h.loops.modify j fun l => { l with running := false } }
  | .tick _ now arg => { h.callBack arg with preTime := some now }

/-- What a step has checked when its beat happens. A loop calls back when it
runs, its entity is not stopped and the time that all loops share is up. -/
def Enabled (h : Heart) : Beat → Prop
  | .rest | .keepAlive _ _ => True
  | .connect s _ => h.client s = none
  | .reconnect s => h.client s ≠ none
  | .look j now => ∃ l e, h.loops[j]? = some l ∧ h.entity l = some e ∧ l.running = true ∧
      e.m_ThreadPower = false ∧ ¬h.preTime.getD now + e.m_iDeltaTime < now
  | .finish j => ∃ l e, h.loops[j]? = some l ∧ h.entity l = some e ∧ l.running = true ∧
      e.m_ThreadPower = true
  | .tick j now arg => ∃ l e, h.loops[j]? = some l ∧ h.entity l = some e ∧ l.running = true ∧
      e.m_ThreadPower = false ∧ h.preTime.getD now + e.m_iDeltaTime < now ∧ arg = e.m_pTimeFuncArg

end Heart

/-- What a step is to the heartbeats, read off the state and the action. -/
def beat (st : Process DB) : Action → Beat
  | .accept s junk =>
    if s ∈ st.g_CliSocketArr then .rest
    else
      match st.cache.GetEntity s with
      | none => .connect s junk
      | some _ => .reconnect s
  | .close _ => .rest
  | .packet s m _ => if readable s st && m.curscene = .CS_KeepAlive then .keepAlive s m else .rest
  | .poll j now => (heart st).turn j now

section Cache

variable {c c' : CCache} {s : SOCKET} {e : CClientEntity} {out : Outbox}

theorem pulses_of_entity (h : c.GetEntity s = some e) : pulses c s = some (pulse e) := by
  rw [pulses, h]
  rfl

theorem pulses_eq_none : pulses c s = none ↔ c.GetEntity s = none := Option.map_eq_none_iff

theorem pulses_shells (c : CCache) : pulses c = fun s => (shells c s).map pulse := by
  funext s
  rw [pulses, shells, Option.map_map]
  rfl

theorem pulses_congr (h : shells c' = shells c) : pulses c' = pulses c := by
  rw [pulses_shells, pulses_shells, h]

theorem pulses_update {o : Option CClientEntity}
    (h : shells c' = Function.update (shells c) s (o.map shell)) :
    pulses c' = Function.update (pulses c) s (o.map pulse) := by
  rw [pulses_shells, pulses_shells, h]
  funext t
  by_cases ht : t = s
  · subst ht
    rw [Function.update_self, Function.update_self, Option.map_map]
    rfl
  · rw [Function.update_of_ne ht, Function.update_of_ne ht]

theorem pulses_writeEntity (c : CCache) (s : SOCKET) (e : CClientEntity) :
    pulses (c.writeEntity s e) = Function.update (pulses c) s (some (pulse e)) :=
  pulses_update (o := some e) (shells_writeEntity c s e)

theorem pulses_writeTimed (f : CClientEntity → CClientEntity)
    (hf : ∀ e, pulse (f e) = f (pulse e)) (c : CCache) (s : SOCKET) :
    pulses (writeTimed s f c) = Function.update (pulses c) s ((pulses c s).map f) := by
  rw [writeTimed]
  cases he : c.GetEntity s with
  | none =>
    have hsame : (pulses c s).map f = pulses c s := by
      rw [pulses_eq_none.mpr he]
      rfl
    rw [hsame, Function.update_eq_self]
  | some e =>
    dsimp only
    rw [pulses_writeEntity, pulses_of_entity he, Option.map_some, hf]

theorem pulses_endTick (s : SOCKET) (scene : CurScene) (c : CCache) (out : Outbox) :
    pulses (endTick s scene c out).1 = Function.update (pulses c) s
      ((pulses c s).map fun e => { e with m_iSendMsgCount := e.m_iSendMsgCount + 1 }) :=
  pulses_writeTimed (fun e => { e with m_iSendMsgCount := e.m_iSendMsgCount + 1 })
    (fun _ => rfl) c s

theorem pulses_setBroken (s : SOCKET) (b : Bool) (c : CCache) :
    pulses (writeTimed s (fun e => { e with isBroken := b }) c) =
      Function.update (pulses c) s ((pulses c s).map fun e => { e with isBroken := b }) :=
  pulses_writeTimed (fun e => { e with isBroken := b }) (fun _ => rfl) c s

theorem leaveBand_pulse (e : CClientEntity) : leaveBand (pulse e) = leaveBand e := rfl

theorem breakBand_pulse (e : CClientEntity) : breakBand (pulse e) = breakBand e := rfl

theorem countedTick_pulses {scene : CurScene} (he : c.GetEntity s = some e)
    (h : countedTick s scene e c = .ok (c', out)) :
    pulses c' = Function.update (pulses c) s (some (counted (pulse e))) := by
  have hflag : ∀ (b : Bool) (c₁ : CCache) (o : Outbox), pulses c₁ = pulses c →
      pulses (endTick s scene (writeTimed s (fun e => { e with isBroken := b }) c₁) o).1 =
        Function.update (pulses c) s (some { pulse e with
          isBroken := b, m_iSendMsgCount := e.m_iSendMsgCount + 1 }) := by
    intro b c₁ o hsame
    rw [pulses_endTick, pulses_setBroken, Function.update_self, Function.update_idem, hsame,
      pulses_of_entity he]
    rfl
  rw [countedTick] at h
  rw [counted, leaveBand_pulse, breakBand_pulse]
  cases hl : leaveBand e with
  | true =>
    simp only [hl, if_true] at h ⊢
    split at h
    · obtain ⟨⟨c₁, o⟩, hleave, h⟩ := of_bind_ok h
      cases h
      exact hflag true c₁ o (pulses_congr (leaveOwnRoom_shells hleave))
    · cases h
      exact hflag true c [] rfl
  | false =>
    simp only [hl, Bool.false_eq_true, if_false] at h ⊢
    cases hb : breakBand e with
    | true =>
      simp only [hb, if_true] at h ⊢
      split at h
      · obtain ⟨o, -, h⟩ := of_bind_ok h
        cases h
        exact hflag false c o rfl
      · cases h
        exact hflag false c [] rfl
    | false =>
      simp only [hb, Bool.false_eq_true, if_false] at h ⊢
      cases h
      refine (pulses_endTick s scene c []).trans ?_
      rw [pulses_of_entity he]
      rfl

end Cache

section Maps

variable {st st' : Process DB} {s : SOCKET} {m : UnPacket}

theorem info_insert (infos : Std.TreeMap Nat CKeepAliveInfo) (ptr : Nat) (info : CKeepAliveInfo) :
    (fun p => (infos.insert ptr info)[p]?) =
      Function.update (fun p => infos[p]?) ptr (some info) := by
  funext p
  by_cases hp : p = ptr
  · subst hp
    simp
  · rw [Function.update_of_ne hp]
    simp [Std.TreeMap.getElem?_insert, Ne.symm hp]

theorem info_erase (infos : Std.TreeMap Nat CKeepAliveInfo) (ptr : Nat) :
    (fun p => (infos.erase ptr)[p]?) = Function.update (fun p => infos[p]?) ptr none := by
  funext p
  by_cases hp : p = ptr
  · subst hp
    simp
  · rw [Function.update_of_ne hp]
    simp [Std.TreeMap.getElem?_erase, Ne.symm hp]

theorem map_insert (map : Std.TreeMap SOCKET Nat) (s : SOCKET) (ptr : Nat) :
    (fun t => (map.insert s ptr)[t]?) = Function.update (fun t => map[t]?) s (some ptr) := by
  funext t
  by_cases ht : t = s
  · subst ht
    simp
  · rw [Function.update_of_ne ht]
    simp [Std.TreeMap.getElem?_insert, Ne.symm ht]

theorem storeMessage_heart (h : storeMessage s m st = .ok st') : heart st' =
    match st.keepAliveInfoMap[s]? with
    | none => heart st
    | some ptr => (heart st).setInfo ptr
        (((heart st).info ptr).map fun info => { info with RecMessage := m }) := by
  rw [storeMessage] at h
  cases hmap : st.keepAliveInfoMap[s]? with
  | none =>
    simp only [hmap] at h
    cases h
    rfl
  | some ptr =>
    simp only [hmap] at h
    cases hinfo : st.infos[ptr]? with
    | none => simp [hinfo] at h
    | some info =>
      simp only [hinfo] at h
      cases h
      simp [heart, Heart.setInfo, info_insert, hinfo]

theorem storeReport_heart (h : storeReport s m st = .ok st') :
    heart st' = (heart st).report s m := by
  have hstored : storeMessage s m st = .ok st' →
      m.keepalive.curscene = .CS_WaitRoom ∨ m.keepalive.curscene = .CS_MainScene →
      heart st' = (heart st).report s m := by
    intro h hscene
    rw [storeMessage_heart h, Heart.report, if_pos hscene]
    rfl
  rw [storeReport] at h
  split at h
  · rename_i hscene
    exact hstored h (.inl hscene)
  · rename_i hwait
    split at h
    · rename_i hscene
      exact hstored h (.inr hscene)
    · rename_i hmain
      cases h
      rw [Heart.report, if_neg (not_or.mpr ⟨hwait, hmain⟩)]

end Maps

section Steps

variable {sqlite : Sqlite DB} {st st' : Process DB} {s : SOCKET} {m : UnPacket} {rand : List Nat}
  {out : Outbox}

/-- A step that keeps everything but the role infos and session ids. -/
theorem heart_congr (hp : pulses st'.cache = pulses st.cache) (he : st'.erased = st.erased)
    (hm : st'.keepAliveInfoMap = st.keepAliveInfoMap) (hi : st'.infos = st.infos)
    (ha : st'.nextAddr = st.nextAddr) (hl : st'.loops = st.loops) (ht : st'.preTime = st.preTime) :
    heart st' = heart st := by
  rw [heart, heart, hp, he, hm, hi, ha, hl, ht]

theorem deliver_heart {x : Process DB × Outbox} (h : deliver x = (st', out)) :
    heart st' = heart x.1 := by
  obtain ⟨_, rfl⟩ := of_deliver h
  rfl

theorem StartCServer_heart {junk : Int} (h : StartCServer s junk st = .ok st') :
    heart st' = (heart st).apply (beat st (.accept s junk)) := by
  rw [StartCServer] at h
  rw [beat]
  by_cases hs : s ∈ st.g_CliSocketArr
  · rw [if_pos hs] at h
    cases h
    rw [if_pos hs]
    rfl
  · rw [if_neg hs] at h ⊢
    cases he : st.cache.GetEntity s with
    | none =>
      simp only [he, CCache.SetEntity_new he] at h ⊢
      have hnew : ∀ listeners arr, heart { st with
          cache := st.cache.writeEntity s (newcomer st.nextAddr s junk)
          m_CObCServers := listeners, nextAddr := st.nextAddr + 1, g_CliSocketArr := arr } =
          (heart st).apply (.connect s junk) := by
        intro listeners arr
        rw [heart, pulses_writeEntity]
        rfl
      split at h
      · cases h
        exact hnew _ _
      · split at h
        · cases h
        · cases h
          exact hnew _ _
    | some e =>
      simp only [he] at h ⊢
      have hback : ∀ arr, heart { st with
          cache := st.cache.writeEntity s (welcomed e), g_CliSocketArr := arr } =
          (heart st).apply (.reconnect s) := by
        intro arr
        have hclient : (heart st).client s = some (pulse e) := pulses_of_entity he
        rw [Heart.apply, hclient, heart, pulses_writeEntity]
        rfl
      split at h
      · cases h
        exact hback _
      · split at h
        · cases h
        · cases h
          exact hback _

theorem Start_heart (h : Start s m st = .ok (st', out)) :
    heart st' = (heart st).apply (.keepAlive s m) := by
  rw [Start] at h
  rw [Heart.apply]
  cases he : st.cache.GetEntity s with
  | none =>
    have hclient : (heart st).client s = none := pulses_eq_none.mpr he
    simp only [he] at h
    simp only [hclient]
    cases h
    rfl
  | some e =>
    have hclient : (heart st).client s = some (pulse e) := pulses_of_entity he
    simp only [he] at h
    simp only [hclient]
    obtain ⟨st₁, hst, h⟩ := of_bind_ok h
    rw [← storeReport_heart hst]
    have hthread : (pulse e).m_HasThread = e.m_HasThread := rfl
    rw [hthread]
    split at h
    · rename_i hhas
      rw [if_pos hhas]
      cases h
      rw [heart, pulses_writeEntity]
      rfl
    · rename_i hhas
      rw [if_neg hhas]
      cases h
      rw [heart, SetTimerMutex]
      dsimp only
      rw [pulses_writeEntity, info_insert, map_insert]
      rfl

theorem TimerFunc_heart {arg : Option Nat} (h : TimerFunc arg st = .ok (st', out)) :
    heart st' = (heart st).callBack arg := by
  cases arg with
  | none =>
    cases h
    rfl
  | some ptr =>
    have hinfo : (heart st).info ptr = st.infos[ptr]? := rfl
    rw [Heart.callBack]
    rw [hinfo]
    obtain ⟨info, hi, ⟨he, rfl, -⟩ | ⟨e, he, ⟨hlate, rfl, -⟩ | ⟨hearly, c, ht, rfl⟩⟩⟩ :=
      TimerFunc_spec h
    all_goals simp only [hi]
    · have hclient : (heart st').client info.clientSocket = none := pulses_eq_none.mpr he
      simp only [hclient]
    · have hclient : (heart st).client info.clientSocket = some (pulse e) := pulses_of_entity he
      have hcount : (pulse e).m_iSendMsgCount = e.m_iSendMsgCount := rfl
      have hgone := pulses_update (o := none) (shells_eraseEntity st.cache info.clientSocket)
      simp only [hclient, hcount, if_pos hlate]
      simp only [heart, evict, List.map_append, info_erase, hgone]
      rfl
    · have hclient : (heart st).client info.clientSocket = some (pulse e) := pulses_of_entity he
      have hcount : (pulse e).m_iSendMsgCount = e.m_iSendMsgCount := rfl
      simp only [hclient, hcount, if_neg hearly]
      rw [heart, countedTick_pulses he ht]
      rfl

theorem loopEntity_heart (l : TimerLoop) (st : Process DB) :
    (heart st).entity l = (loopEntity l st).map pulse := by
  have hfind : (st.erased.map pulse).find? (fun e => e.addr = l.self) =
      (st.erased.find? fun e => e.addr = l.self).map pulse := by
    rw [List.find?_map]
    rfl
  rw [Heart.entity, loopEntity]
  cases he : st.cache.GetEntity l.sockClient with
  | none =>
    have hclient : (heart st).client l.sockClient = none := pulses_eq_none.mpr he
    simp only [hclient]
    exact hfind
  | some e =>
    have hclient : (heart st).client l.sockClient = some (pulse e) := pulses_of_entity he
    have haddr : (pulse e).addr = e.addr := rfl
    simp only [hclient, haddr]
    split
    · rfl
    · exact hfind

theorem set_eq_modify {l : TimerLoop} {j : Nat} {loops : List TimerLoop} (h : loops[j]? = some l)
    (f : TimerLoop → TimerLoop) : loops.set j (f l) = loops.modify j f := by
  rw [List.modify_eq_set_getElem?, h]
  rfl

theorem poll_heart {j now : Nat} (h : poll j now st = .ok (st', out)) :
    heart st' = (heart st).apply ((heart st).turn j now) := by
  rw [poll] at h
  rw [Heart.turn]
  have hloops : (heart st).loops = st.loops := rfl
  rw [hloops]
  cases hl : st.loops[j]? with
  | none =>
    simp only [hl] at h
    cases h
    rfl
  | some l =>
    simp only [hl, loopEntity_heart] at h ⊢
    cases he : loopEntity l st with
    | none =>
      simp only [he] at h
      cases h
      rfl
    | some e =>
      have hpower : (pulse e).m_ThreadPower = e.m_ThreadPower := rfl
      have hdelta : (pulse e).m_iDeltaTime = e.m_iDeltaTime := rfl
      have harg : (pulse e).m_pTimeFuncArg = e.m_pTimeFuncArg := rfl
      have htime : (heart st).preTime = st.preTime := rfl
      simp only [he, Option.map_some, hpower, hdelta, harg, htime] at h ⊢
      split at h
      · rename_i hrun
        rw [if_pos hrun]
        cases h
        rfl
      · rename_i hrun
        rw [if_neg hrun]
        split at h
        · rename_i hstop
          rw [if_pos hstop]
          cases h
          rw [Heart.apply, hloops, ← set_eq_modify hl]
          rfl
        · rename_i hstop
          rw [if_neg hstop]
          split at h
          · rename_i hdue
            rw [if_pos hdue]
            obtain ⟨⟨st₁, o⟩, hx, h⟩ := of_bind_ok h
            cases h
            rw [Heart.apply, ← TimerFunc_heart hx]
            rfl
          · rename_i hdue
            rw [if_neg hdue]
            cases h
            rfl

theorem ProcessMsgLogic_heart (he : (st.cache.GetEntity s).isSome = true)
    (h : ProcessMsgLogic sqlite s m rand st = .ok (st', out)) :
    heart st' =
      (heart st).apply (if m.curscene = .CS_KeepAlive then .keepAlive s m else .rest) := by
  obtain ⟨e, he⟩ := Option.isSome_iff_exists.mp he
  by_cases hm : m.curscene = .CS_KeepAlive
  · rw [ProcessMsgLogic, hm] at h
    rw [if_pos hm]
    exact Start_heart h
  · rw [if_neg hm]
    obtain ⟨db, c, hst⟩ := ProcessMsgLogic_scenes hm h
    have hkept : pulses st'.cache = pulses st.cache := by
      have hshells := ProcessMsgLogic_shells he hm h
      split at hshells
      · exact pulses_congr hshells
      · -- the session id is no part of the pulse
        rename_i sid _
        have hsame : pulse { e with SessionID := sid } = pulse e := rfl
        rw [pulses_update (o := some { e with SessionID := sid }) hshells, Option.map_some, hsame,
          ← pulses_of_entity he, Function.update_eq_self]
    rw [hst] at hkept ⊢
    exact heart_congr hkept rfl rfl rfl rfl rfl rfl

/-- Every completed step does to the heartbeats what its beat is. -/
theorem step_heart {a : Action} (h : step sqlite st a = .ok (st', out)) :
    heart st' = (heart st).apply (beat st a) := by
  cases a with
  | accept s junk =>
    obtain ⟨x, hx, h⟩ := of_map_ok h
    cases h
    exact StartCServer_heart hx
  | close s =>
    simp only [step] at h
    split at h <;> cases h <;> rfl
  | packet s m rand =>
    obtain ⟨x, hx, h⟩ := of_map_ok h
    rw [deliver_heart h, beat]
    rw [receive] at hx
    split at hx
    · rename_i hread
      simp only [hread, Bool.true_and, decide_eq_true_eq]
      cases he : st.cache.GetEntity s with
      | none =>
        have hclient : (heart st).client s = none := pulses_eq_none.mpr he
        simp only [he] at hx
        cases hx
        split
        · rw [Heart.apply]
          simp only [hclient]
        · rfl
      | some e =>
        simp only [he] at hx
        exact ProcessMsgLogic_heart (by rw [he]; rfl) hx
    · rename_i hread
      simp only [hread, Bool.false_and, Bool.false_eq_true, if_false]
      cases hx
      rfl
  | poll j now =>
    obtain ⟨x, hx, h⟩ := of_map_ok h
    rw [deliver_heart h]
    exact poll_heart hx

theorem turn_enabled (h : Heart) (j now : Nat) : h.Enabled (h.turn j now) := by
  rw [Heart.turn]
  cases hl : h.loops[j]? with
  | none => trivial
  | some l =>
    cases he : h.entity l with
    | none =>
      simp only [he]
      trivial
    | some e =>
      simp only [he]
      split
      · trivial
      · rename_i hrun
        have hrun : l.running = true := by simpa using hrun
        split
        · rename_i hpower
          exact ⟨l, e, hl, he, hrun, hpower⟩
        · rename_i hpower
          split
          · rename_i hdue
            exact ⟨l, e, hl, he, hrun, by simpa using hpower, hdue, rfl⟩
          · rename_i hdue
            exact ⟨l, e, hl, he, hrun, by simpa using hpower, hdue⟩

theorem turn_tick {h : Heart} {j now j' now' : Nat} {arg : Option Nat}
    (ht : h.turn j now = .tick j' now' arg) : j' = j ∧ now' = now := by
  rw [Heart.turn] at ht
  repeat' split at ht
  all_goals cases ht
  exact ⟨rfl, rfl⟩

theorem turn_tick_iff (st : Process DB) (j now ptr : Nat) :
    (heart st).turn j now = .tick j now (some ptr) ↔ dueArg j now st = some ptr := by
  rw [Heart.turn, dueArg]
  have hloops : (heart st).loops = st.loops := rfl
  rw [hloops]
  cases hl : st.loops[j]? with
  | none => simp
  | some l =>
    simp only [loopEntity_heart]
    cases he : loopEntity l st with
    | none => simp
    | some e =>
      have hpower : (pulse e).m_ThreadPower = e.m_ThreadPower := rfl
      have hdelta : (pulse e).m_iDeltaTime = e.m_iDeltaTime := rfl
      have harg : (pulse e).m_pTimeFuncArg = e.m_pTimeFuncArg := rfl
      have htime : (heart st).preTime = st.preTime := rfl
      simp only [Option.map_some, hpower, hdelta, harg, htime]
      cases l.running <;> cases e.m_ThreadPower <;>
        by_cases hdue : st.preTime.getD now + e.m_iDeltaTime < now <;> simp [hdue]

def Finds (P : CClientEntity → Prop) (h : Heart) : Beat → Prop
  | .tick _ _ (some ptr) => ∀ info e, h.info ptr = some info → h.client info.clientSocket = some e → P e
  | _ => True

theorem finds_iff {P : CClientEntity → Prop} (hp : ∀ e, P (pulse e) ↔ P e) (st : Process DB)
    (j now : Nat) : Finds P (heart st) ((heart st).turn j now) ↔
      ∀ ptr ∈ dueArg j now st, ∀ info ∈ st.infos[ptr]?,
        ∀ e ∈ st.cache.GetEntity info.clientSocket, P e := by
  refine ⟨fun hs ptr hdue info hi e he => ?_, fun hall => ?_⟩
  · rw [(turn_tick_iff st j now ptr).mpr hdue] at hs
    exact (hp e).mp (hs info (pulse e) hi (pulses_of_entity he))
  · cases hturn : (heart st).turn j now with
    | tick j' now' arg =>
      obtain ⟨rfl, rfl⟩ := turn_tick hturn
      cases arg with
      | none => trivial
      | some ptr =>
        intro info e hi he
        obtain ⟨e₀, he₀, rfl⟩ := Option.map_eq_some_iff.mp he
        exact (hp e₀).mpr (hall ptr ((turn_tick_iff st j' now' ptr).mp hturn) info hi e₀ he₀)
    | rest | connect | reconnect | keepAlive | look | finish => trivial

theorem beat_enabled (st : Process DB) (a : Action) : (heart st).Enabled (beat st a) := by
  cases a with
  | accept s junk =>
    rw [beat]
    split
    · trivial
    · cases he : st.cache.GetEntity s with
      | none =>
        simp only [Heart.Enabled]
        exact pulses_eq_none.mpr he
      | some e =>
        have hclient : (heart st).client s = some (pulse e) := pulses_of_entity he
        simp [Heart.Enabled, hclient]
  | close s => trivial
  | packet s m rand =>
    rw [beat]
    split <;> trivial
  | poll j now => exact turn_enabled (heart st) j now

end Steps

end JiraGame.Heartbeats
