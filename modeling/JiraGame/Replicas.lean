import JiraGame.Announcements
import JiraGame.Frame
import JiraGame.Identities
import JiraGame.Listeners
import JiraGame.Membership

namespace JiraGame.Replicas

open JiraGame.Scene JiraGame.Command JiraGame.DBServer JiraGame.Cache JiraGame.HallScene
open JiraGame.ServerState JiraGame.KeepAlive JiraGame.Server JiraGame.RoomTable
open JiraGame.Refinement JiraGame.RoomChanges JiraGame.RoomRecord JiraGame.Broadcasts
open JiraGame.ReplySizes JiraGame.SentPackets JiraGame.Membership JiraGame.Identities
open JiraGame.Listeners JiraGame.Session JiraGame.Announcements JiraGame.Frame JiraGame.Runs
open JiraGame.Lib.History JiraGame.Lib.Fails

/-- What a client knows of its room. -/
structure Replica where
  roomid : Int := 0
  roomname : String := ""
  members : List PlayerInfo := []

namespace Replica

/-- A creation or a join starts the roster anew, a leave changes it. -/
def hear (v : Replica) (ret : HallReturn) : Replica :=
  match ret.msgtype? with
  | some .HST_CreateRoom | some .HST_JoinTeam =>
    { roomid := ret.roomid?.getD 0, roomname := ret.roomname?.getD "", members := ret.friendlist }
  | some .HST_LeaveRoom => { v with members := applyLeave ret v.members }
  | _ => v

def read (v : Replica) (p : Packet) : Replica := p.hallreturn?.elim v v.hear

end Replica

def mail (t : SOCKET) (out : Outbox) : List Packet := (out.filter fun y => y.1 = t).map Prod.snd

def Replica.readAll (v : Replica) (t : SOCKET) (out : Outbox) : Replica :=
  (mail t out).foldl Replica.read v

/-- What a replica has in common with the stored room. -/
structure Mirrors (v : Replica) (r : RoomInfo) : Prop where
  roomid : v.roomid = r.roomid
  roomname : v.roomname = r.roomname
  members : v.members.map shown = r.playerinfo.map shown

/-- The client creates and joins rooms, and is evicted, only while it is in none. -/
def Steady (t : SOCKET) (l : Lobby) : Event → Prop
  | .create s _ _ | .join s _ _ _ _ | .evict s => s = t → ∀ k, t ∉ sockets l k
  | _ => True

section Reading

variable {v : Replica} {t : SOCKET} {p : Packet} {ret : HallReturn} {out out' : Outbox}
  {ps qs : List PlayerInfo}

theorem mail_append : mail t (out ++ out') = mail t out ++ mail t out' := by
  simp [mail]

theorem readAll_append : v.readAll t (out ++ out') = (v.readAll t out).readAll t out' := by
  rw [Replica.readAll, mail_append, List.foldl_append]
  rfl

theorem readAll_elsewhere (h : t ∉ out.map Prod.fst) : v.readAll t out = v := by
  have hmail : mail t out = [] := by
    rw [mail, List.map_eq_nil_iff, List.filter_eq_nil_iff]
    intro y hy hyt
    exact h (List.mem_map.mpr ⟨y, hy, of_decide_eq_true hyt⟩)
  rw [Replica.readAll, hmail]
  rfl

theorem applyLeave_notice (h : ret.friendlist = []) : applyLeave ret ps = ps := by
  simp only [applyLeave, h]

theorem read_silent (h : announcement p = false) : v.read p = v := by
  rw [Replica.read]
  cases hp : p.hallreturn? with
  | none => rfl
  | some ret =>
    rw [announcement, hp, Option.any_some] at h
    obtain ⟨hcreate, hjoin, hleave⟩ := announces_eq_false h
    rw [Option.elim_some, Replica.hear]
    split
    · exact absurd ‹_› hcreate
    · exact absurd ‹_› hjoin
    · rename_i hmsg
      rw [applyLeave_notice (hleave hmsg)]
    · rfl

theorem readAll_silent (h : ∀ y ∈ out, announcement y.2 = false) : v.readAll t out = v := by
  have hmail : ∀ p ∈ mail t out, announcement p = false := by
    intro p hp
    obtain ⟨y, hy, rfl⟩ := List.mem_map.mp hp
    exact h y (List.mem_of_mem_filter hy)
  rw [Replica.readAll]
  generalize mail t out = packets at hmail
  induction packets with
  | nil => rfl
  | cons p packets ih =>
    obtain ⟨hp, hrest⟩ := List.forall_mem_cons.mp hmail
    rw [List.foldl_cons, read_silent hp, ih hrest]

theorem applyLeave_idem : applyLeave ret (applyLeave ret ps) = applyLeave ret ps := by
  cases hf : ret.friendlist with
  | nil => rw [applyLeave_notice hf]
  | cons leaver more =>
    have hcrown : ∀ owner : Option PlayerInfo, ∀ p, crown owner (crown owner p) = crown owner p := by
      intro owner p
      cases owner with
      | none => rfl
      | some q =>
        by_cases hq : p.seat = q.seat
        · have hset : (p.set_isroomctl true).seat = q.seat := hq
          simp only [crown, if_pos hq, if_pos hset]
          rfl
        · simp only [crown, if_neg hq]
    simp only [applyLeave, hf, List.filter_map, List.map_map]
    rw [List.filter_filter]
    have hfilter : ps.filter (fun p => ((fun p : PlayerInfo => decide (p.roleid ≠ leaver.roleid)) ∘
        crown more.head?) p && decide (p.roleid ≠ leaver.roleid)) =
        ps.filter fun p => decide (p.roleid ≠ leaver.roleid) := by
      apply List.filter_congr
      intro p _
      rw [Function.comp_apply, roleid_crown, Bool.and_self]
    rw [hfilter]
    exact List.map_congr_left fun p _ => hcrown _ p

theorem hear_idem : (v.hear ret).hear ret = v.hear ret := by
  cases hm : ret.msgtype? with
  | none => simp only [Replica.hear, hm]
  | some msgtype => cases msgtype <;> simp only [Replica.hear, hm, applyLeave_idem]

theorem readAll_broadcast (h : Broadcast ret ps out) (ht : t ∈ ps.map PlayerInfo.socket) :
    v.readAll t out = v.hear ret := by
  have hmail : ∀ p ∈ mail t out, p = hallPacket ret := by
    intro p hp
    obtain ⟨y, hy, rfl⟩ := List.mem_map.mp hp
    exact h.message y (List.mem_of_mem_filter hy)
  have hne : mail t out ≠ [] := by
    obtain ⟨y, hy, hyt⟩ := List.mem_map.mp ((h.addressees t).mpr ht)
    rw [mail, ne_eq, List.map_eq_nil_iff, List.filter_eq_nil_iff]
    intro hnone
    exact hnone y hy (decide_eq_true hyt)
  have hread : ∀ w : Replica, w.read (hallPacket ret) = w.hear ret := fun _ => rfl
  have hagain : ∀ packets : List Packet, (∀ p ∈ packets, p = hallPacket ret) →
      packets.foldl Replica.read (v.hear ret) = v.hear ret := by
    intro packets hp
    induction packets with
    | nil => rfl
    | cons p packets ih =>
      obtain ⟨rfl, hrest⟩ := List.forall_mem_cons.mp hp
      rw [List.foldl_cons, hread, hear_idem, ih hrest]
  rw [Replica.readAll]
  cases hm : mail t out with
  | nil => exact absurd hm hne
  | cons p packets =>
    rw [hm] at hmail
    obtain ⟨rfl, hrest⟩ := List.forall_mem_cons.mp hmail
    rw [List.foldl_cons, hread]
    exact hagain packets hrest

/-- The notices around the broadcast of a leave tell nothing about the roster. -/
theorem readAll_leavePackets (s : SOCKET) (via : LeavePath) (scene : CurScene) :
    v.readAll t (leavePackets s via scene out) = v.readAll t out := by
  cases via with
  | joinRoom => rfl
  | leaveRoom =>
    have hnotice : v.readAll t [(s, hallPacket { msgtype? := some .HST_LeaveRoom })] = v := by
      apply readAll_silent
      intro y hy
      rw [List.mem_singleton.mp hy]
      rfl
    have happ : leavePackets s .leaveRoom scene out =
        [(s, hallPacket { msgtype? := some .HST_LeaveRoom })] ++ out := rfl
    rw [happ, readAll_append, hnotice]
  | keepAlive =>
    have happ : leavePackets s .keepAlive scene out = out ++ heartbeatNotice s scene := rfl
    rw [happ, readAll_append, readAll_silent heartbeatNotice_silent]

/-- What a client makes of a leave depends on the shown fields only. -/
theorem applyLeave_shown (h : ps.map shown = qs.map shown) :
    (applyLeave ret ps).map shown = (applyLeave ret qs).map shown := by
  cases hf : ret.friendlist with
  | nil => rw [applyLeave_notice hf, applyLeave_notice hf, h]
  | cons leaver more =>
    simp only [applyLeave, hf]
    induction ps generalizing qs with
    | nil =>
      cases qs with
      | nil => rfl
      | cons q qs => cases h
    | cons p ps ih =>
      cases qs with
      | nil => cases h
      | cons q qs =>
        rw [List.map_cons, List.map_cons, List.cons.injEq] at h
        obtain ⟨hpq, hrest⟩ := h
        have hid : p.roleid = q.roleid := congrArg (fun x => x.1) hpq
        have hcrown : shown (crown more.head? p) = shown (crown more.head? q) := by
          simp only [shown, Prod.mk.injEq] at hpq
          obtain ⟨h₁, h₂, h₃, h₄, h₅, h₆, h₇⟩ := hpq
          cases more.head? with
          | none => simp only [crown, shown, h₁, h₂, h₃, h₄, h₅, h₆, h₇]
          | some o =>
            have hseat : p.seat = q.seat := by rw [PlayerInfo.seat, PlayerInfo.seat, h₆, h₇]
            rw [crown, crown, hseat]
            split
            · simp only [shown, Prod.mk.injEq]
              exact ⟨h₁, h₂, h₃, rfl, h₅, h₆, h₇⟩
            · simp only [shown, h₁, h₂, h₃, h₄, h₅, h₆, h₇]
        by_cases hl : p.roleid = leaver.roleid
        · have hl' : q.roleid = leaver.roleid := hid ▸ hl
          rw [List.filter_cons_of_neg (by simpa using hl),
            List.filter_cons_of_neg (by simpa using hl')]
          exact ih hrest
        · have hl' : q.roleid ≠ leaver.roleid := hid ▸ hl
          rw [List.filter_cons_of_pos (by simpa using hl),
            List.filter_cons_of_pos (by simpa using hl'), List.map_cons, List.map_cons,
            List.map_cons, List.map_cons, hcrown, ih hrest]

end Reading

section Delivery

variable {DB : Type} {x : Process DB × Outbox} {t : SOCKET}

theorem mail_deliver (ht : listener x.1 t = some t)
    (hown : ∀ s u, listener x.1 s = some u → u = s) : mail t (deliver x).2 = mail t x.2 := by
  have hfold : ∀ (out : Outbox) (y : Process DB × Outbox),
      (∀ s, listener y.1 s = listener x.1 s) →
      mail t (out.foldl (fun y p => SendMsg p y) y).2 = mail t y.2 ++ mail t out := by
    intro out
    induction out with
    | nil => exact fun y _ => (List.append_nil _).symm
    | cons p out ih =>
      intro y hy
      have hsame : ∀ s, listener (SendMsg p y).1 s = listener x.1 s := fun s =>
        (SendMsg_listener p y s).trans (hy s)
      have hone : mail t (SendMsg p y).2 = mail t y.2 ++ mail t [p] := by
        obtain ⟨s, packet⟩ := p
        rw [← mail_append]
        by_cases hs : s = t
        · subst hs
          rw [SendMsg_own ((hy s).trans ht)]
        · have hno : mail t [(s, packet)] = [] := by simp [mail, hs]
          rw [mail_append, hno, List.append_nil, SendMsg]
          split
          · rename_i u hu
            have hus : u = s := hown s u (by rw [← hy s, listener, hu]; rfl)
            subst hus
            rw [mail_append, hno, List.append_nil]
          · rfl
          · rfl
      rw [List.foldl_cons, ih _ hsame, hone, List.append_assoc, ← mail_append]
      rfl
  exact hfold x.2 (x.1, []) fun _ => rfl

end Delivery

section Presence

variable {l : Lobby} {ev : Event} {t : SOCKET} {k : Int}

theorem sockets_step (hk : Keyed l) (hen : l.Enabled ev) (h : t ∈ sockets (l.apply ev) k) :
    t ∈ sockets l k ∨ entrant l ev = some (k, t) := by
  cases he : entrant l ev with
  | none => exact .inl ((sockets_no_entrant hk hen he k).subset h)
  | some x =>
    obtain ⟨j, s⟩ := x
    rw [sockets_entrant hen he] at h
    by_cases hkj : k = j
    · subst hkj
      rw [Function.update_self, List.mem_append, List.mem_singleton] at h
      obtain h | rfl := h
      · exact .inl h
      · exact .inr rfl
    · rw [Function.update_of_ne hkj] at h
      exact .inl h

theorem steady_entrant (hs : Steady t l ev) (he : entrant l ev = some (k, t)) :
    ∀ j, t ∉ sockets l j := by
  cases ev with
  | create s id roomname =>
    rw [entrant] at he
    split at he
    · cases he
      exact hs rfl
    · cases he
  | join s j team teamid via =>
    cases he
    exact hs rfl
  | _ => cases he

theorem role_stays (hen : l.Enabled ev) (hev : ev ≠ .evict t) (h : l.role t ≠ none) :
    (l.apply ev).role t ≠ none := by
  have hsame : ∀ l' : Lobby, l'.role t ≠ none ↔ (identities l' t).isSome = true := by
    intro l'
    rw [identities, Option.isSome_map, Option.isSome_iff_ne_none]
  rw [hsame] at h ⊢
  rw [identities_apply hen]
  cases ev with
  | evict s =>
    have hts : t ≠ s := fun hts => hev (by rw [hts])
    rw [identified, Function.update_of_ne hts]
    exact h
  | enter s =>
    by_cases hts : t = s
    · simp [identified, hts]
    · rw [identified, Function.update_of_ne hts]
      exact h
  | select s roletype row =>
    by_cases hts : t = s
    · subst hts
      cases row <;> simpa [identified] using h
    · cases row <;> rwa [identified, Function.update_of_ne hts]
  | sync s payload =>
    by_cases hts : t = s
    · subst hts
      simpa [identified] using h
    · rwa [identified, Function.update_of_ne hts]
  | _ => exact h

theorem entrant_present (hen : l.Enabled ev) (he : entrant l ev = some (k, t)) :
    l.role t ≠ none ∧ ev ≠ .evict t := by
  cases ev with
  | create s id roomname =>
    rw [entrant] at he
    split at he
    · cases he
      obtain ⟨p, hp, -⟩ := hen
      exact ⟨by simp [hp], by simp⟩
    · cases he
  | join s j team teamid via =>
    cases he
    obtain ⟨p, r, hp, -⟩ := hen
    exact ⟨by simp [hp], by simp⟩
  | _ => cases he

end Presence

/-- What holds of a client and its replica: it is in one room at most, it is
connected while it is in one, and its replica mirrors that room. -/
structure Faithful (t : SOCKET) (v : Replica) (l : Lobby) : Prop where
  alone : ∀ j k, t ∈ sockets l j → t ∈ sockets l k → j = k
  present : ∀ k, t ∈ sockets l k → l.role t ≠ none
  mirrors : ∀ k r, l.room k = some r → t ∈ sockets l k → Mirrors v r

section Step

variable {DB : Type} {sqlite : Sqlite DB} {st st' : Process DB} {out : Outbox} {a : Action}
  {t : SOCKET} {v : Replica} {l : Lobby} {ev : Event}

theorem alone_step (hk : Keyed l) (h : Faithful t v l) (hen : l.Enabled ev) (hs : Steady t l ev)
    (j k : Int) (hj : t ∈ sockets (l.apply ev) j) (hk' : t ∈ sockets (l.apply ev) k) : j = k := by
  obtain hj | hj := sockets_step hk hen hj
  · obtain hk' | hk' := sockets_step hk hen hk'
    · exact h.alone j k hj hk'
    · exact absurd hj (steady_entrant hs hk' j)
  · obtain hk' | hk' := sockets_step hk hen hk'
    · exact absurd hk' (steady_entrant hs hj k)
    · rw [hj] at hk'
      cases hk'
      rfl

theorem present_step (hk : Keyed l) (h : Faithful t v l) (hen : l.Enabled ev) (hs : Steady t l ev)
    (k : Int) (hk' : t ∈ sockets (l.apply ev) k) : (l.apply ev).role t ≠ none := by
  obtain hk' | hk' := sockets_step hk hen hk'
  · refine role_stays hen ?_ (h.present k hk')
    rintro rfl
    exact hs rfl k hk'
  · obtain ⟨hrole, hev⟩ := entrant_present hen hk'
    exact role_stays hen hev hrole

section Handlers

variable {c c' : CCache} {s : SOCKET} {k : Int} {r' : RoomInfo}

theorem mem_sockets (hr : l.room k = some r') :
    t ∈ sockets l k ↔ t ∈ r'.playerinfo.map PlayerInfo.socket := by
  rw [sockets, roster_of_room hr]

theorem mirrors_kept (h : Faithful t v l) (hr : l.room k = some r')
    (ht : t ∈ r'.playerinfo.map PlayerInfo.socket) (hv : v.readAll t out = v) :
    Mirrors (v.readAll t out) r' := by
  rw [hv]
  exact h.mirrors k r' hr ((mem_sockets hr).mpr ht)

theorem mirrors_create {id : Int} {roomname : String} (hk : Keyed (lobby c))
    (h : Faithful t v (lobby c)) (hen : (lobby c).Enabled (.create s id roomname))
    (hs : Steady t (lobby c) (.create s id roomname)) (hnamed : Named c out (.create s id roomname))
    (hr' : ((lobby c).apply (.create s id roomname)).room k = some r')
    (ht : t ∈ r'.playerinfo.map PlayerInfo.socket) : Mirrors (v.readAll t out) r' := by
  obtain ⟨e, he, rfl⟩ := hnamed
  by_cases hst : s = t
  · subst hst
    cases room_change hk hen hr' with
    | kept _ hr => exact absurd ((mem_sockets hr).mpr ht) (hs rfl k)
    | created s roomname p hp _ _ hrec =>
      rw [role_of_entity c he, Option.some.injEq] at hp
      subst hp
      have hmail : ∀ ret, v.readAll s [(s, hallPacket ret)] = v.hear ret := by
        intro ret
        simp [Replica.readAll, mail, Replica.read, hallPacket]
      rw [hmail, hrec]
      exact ⟨rfl, rfl, rfl⟩
  · have hv : v.readAll t [(s, hallPacket (createReturn roomname (id, e.roleInfo)))] = v :=
      readAll_elsewhere (by simpa using Ne.symm hst)
    cases room_change hk hen hr' with
    | kept _ hr => exact mirrors_kept h hr ht hv
    | created s roomname p _ _ _ hrec =>
      rw [hrec] at ht
      exact absurd (List.mem_singleton.mp ht).symm hst

theorem mirrors_join {team : TeamType} {teamid j : Int} {via : JoinPath} (hk : Keyed (lobby c))
    (h : Faithful t v (lobby c)) (href : Refines (lobby c) (.join s j team teamid via) (lobby c'))
    (hs : Steady t (lobby c) (.join s j team teamid via))
    (hnamed : Named c out (.join s j team teamid via))
    (htold : Told c c' out (.join s j team teamid via)) (hr' : (lobby c').room k = some r')
    (ht : t ∈ r'.playerinfo.map PlayerInfo.socket) : Mirrors (v.readAll t out) r' := by
  obtain ⟨hen, happ⟩ := href
  obtain ⟨ret, r₁, hr₁, hmsg, hsent, hlist⟩ := htold
  rw [happ] at hr'
  by_cases hin : t ∈ r₁.playerinfo.map PlayerInfo.socket
  · have hkj : k = j := by
      apply alone_step hk h hen hs
      · exact (mem_sockets hr').mpr ht
      · rw [← happ]
        exact (mem_sockets hr₁).mpr hin
    subst hkj
    rw [← happ, room_lobby, hr₁, Option.some.injEq] at hr'
    subst hr'
    obtain ⟨p, r, hp, hr, -⟩ := hen
    have hjoined : r₁ = joined r (entryOf via s p r team teamid) := by
      rw [← room_lobby, happ, room_join hp hr, Option.some.injEq] at hr₁
      exact hr₁.symm
    obtain ⟨y, hy, -⟩ := List.mem_map.mp ((hsent.addressees t).mpr ht)
    obtain ⟨ret', hret', hid, hname⟩ := hnamed r hr y hy
    have hsame : ret = ret' := by
      have hpacket := (hsent.message y hy).symm.trans hret'
      simpa [hallPacket] using hpacket
    subst hsame
    rw [readAll_broadcast hsent ht]
    simp only [Replica.hear, hmsg, hid, hname, Option.getD_some]
    refine ⟨?_, ?_, hlist⟩
    · rw [hjoined]
      rfl
    · rw [hjoined]
      rfl
  · have hv : v.readAll t out = v :=
      readAll_elsewhere fun hmem => hin ((hsent.addressees t).mp hmem)
    cases room_change hk hen hr' with
    | kept _ hr => exact mirrors_kept h hr ht hv
    | joined s team teamid via p r hp hr _ _ hrec =>
      rw [← happ, room_lobby, hr₁, Option.some.injEq] at hr'
      rw [hr'] at hin
      exact absurd ht hin

theorem mirrors_leave {j : Int} {via : LeavePath} (hk : Keyed (lobby c))
    (h : Faithful t v (lobby c)) (href : Refines (lobby c) (.leave s j via) (lobby c'))
    (hsilent : ∀ y ∈ out, announcement y.2 = true → Announced (lobby c) (.leave s j via))
    (htold : Told c c' out (.leave s j via)) (hr' : (lobby c').room k = some r')
    (ht : t ∈ r'.playerinfo.map PlayerInfo.socket) : Mirrors (v.readAll t out) r' := by
  obtain ⟨hen, happ⟩ := href
  rw [happ] at hr'
  cases hr₁ : c'.FindEntityRoom j with
  | none =>
    have hgone : ((lobby c).apply (.leave s j via)).room j = none := by rw [← happ]; exact hr₁
    have hv : v.readAll t out = v := by
      apply readAll_silent
      intro y hy
      by_contra ha
      obtain ⟨r, hr, hlast⟩ := hsilent y hy (by simpa using ha)
      obtain ⟨p, -, hp, -⟩ := hen
      rw [room_leave hk hp hr (by simp [hlast])] at hgone
      cases hgone
    cases room_change hk hen hr' with
    | kept _ hr => exact mirrors_kept h hr ht hv
    | left => simp [hgone] at hr'
  | some r₁ =>
    obtain ⟨p, r, hp, hr, -⟩ := id hen
    obtain ⟨ret, scene, sent, rfl, hmsg, hsent, happly⟩ := htold r r₁ hr hr₁
    rw [readAll_leavePackets]
    by_cases hkj : k = j
    · subst hkj
      have hrec : r'.roomid = r.roomid ∧ r'.roomname = r.roomname := by
        cases room_change hk hen hr' with
        | kept _ hkept =>
          rw [hr, Option.some.injEq] at hkept
          rw [hkept]
          exact ⟨rfl, rfl⟩
        | left s via p r₂ _ hr₂ _ hleft =>
          rw [hr, Option.some.injEq] at hr₂
          subst hr₂
          rw [hleft]
          exact ⟨rfl, rfl⟩
      have hin : t ∈ sockets (lobby c) k := by
        obtain hin | hin := sockets_step hk hen ((mem_sockets hr').mpr ht)
        · exact hin
        · cases hin
      rw [← happ, room_lobby, hr₁, Option.some.injEq] at hr'
      subst hr'
      obtain ⟨hid, hname, hmembers⟩ := h.mirrors k r hr hin
      rw [readAll_broadcast hsent ht]
      simp only [Replica.hear, hmsg]
      refine ⟨hid.trans hrec.1.symm, hname.trans hrec.2.symm, ?_⟩
      rw [applyLeave_shown hmembers, happly]
    · have hv : v.readAll t sent = v := by
        apply readAll_elsewhere
        intro hmem
        refine hkj (alone_step hk h hen trivial k j ((mem_sockets hr').mpr ht) ?_)
        rw [← happ]
        exact (mem_sockets hr₁).mpr ((hsent.addressees t).mp hmem)
      cases room_change hk hen hr' with
      | kept _ hkept => exact mirrors_kept h hkept ht hv
      | left => exact absurd rfl hkj

theorem mirrors_silent (hk : Keyed l) (h : Faithful t v l) (hen : l.Enabled ev)
    (hsilent : ∀ y ∈ out, announcement y.2 = false) (hev : ¬Announced l ev)
    (hr' : (l.apply ev).room k = some r') (ht : t ∈ r'.playerinfo.map PlayerInfo.socket) :
    Mirrors (v.readAll t out) r' := by
  cases room_change hk hen hr' with
  | kept _ hr => exact mirrors_kept h hr ht (readAll_silent hsilent)
  | created => exact absurd trivial hev
  | joined => exact absurd trivial hev
  | left s via p r _ hr hlast _ => exact absurd ⟨r, hr, by simpa using hlast⟩ hev

end Handlers

theorem faithful_handled (hall : AllRecorded (lobby st.cache)) (h : Faithful t v (lobby st.cache))
    (hh : handled sqlite st a = .ok (st', out))
    (href : Refines (lobby st.cache) (event sqlite st a) (lobby st'.cache))
    (hs : Steady t (lobby st.cache) (event sqlite st a)) :
    Faithful t (v.readAll t out) (lobby st'.cache) := by
  have hnamed := handled_named hh
  have htold := handled_told hall hh
  have hannounced := fun y hy ha => announced_handled hh (y := y) hy ha
  generalize event sqlite st a = ev at *
  refine ⟨?_, ?_, ?_⟩
  · rw [href.2]
    exact alone_step hall.keyed h href.1 hs
  · rw [href.2]
    exact present_step hall.keyed h href.1 hs
  · intro k r' hr' ht
    rw [mem_sockets hr'] at ht
    have hother : ¬Announced (lobby st.cache) ev → Mirrors (v.readAll t out) r' := by
      intro hev
      rw [href.2] at hr'
      refine mirrors_silent hall.keyed h href.1 ?_ hev hr' ht
      intro y hy
      by_contra ha
      exact hev (hannounced y hy (by simpa using ha))
    cases ev with
    | create s id roomname =>
      rw [href.2] at hr'
      exact mirrors_create hall.keyed h href.1 hs hnamed hr' ht
    | join s j team teamid via => exact mirrors_join hall.keyed h href hs hnamed htold hr' ht
    | leave s j via => exact mirrors_leave hall.keyed h href hannounced htold hr' ht
    | _ => exact hother fun hev => hev

end Step

section Run

variable {DB : Type} {sqlite : Sqlite DB} {db : DB} {st st' : Process DB} {out : Outbox}
  {a : Action} {t : SOCKET}

def written (sqlite : Sqlite DB) (st : Process DB) (a : Action) : Outbox :=
  match step sqlite st a with
  | .ok x => x.2
  | .error _ => []

/-- The replica that a client builds from what it is sent in a run. -/
def replica (sqlite : Sqlite DB) (t : SOCKET) (tr : List (Process DB × Action)) : Replica :=
  observe {} (fun v st a => v.readAll t (written sqlite st a)) tr

theorem step_handled (h : step sqlite st a = .ok (st', out)) :
    ∃ x, handled sqlite st a = .ok x ∧ deliver x = (st', out) := by
  cases a with
  | accept s junk =>
    obtain ⟨st₁, hst, hout⟩ := of_map_ok h
    cases hout
    exact ⟨_, h, rfl⟩
  | close s =>
    have hquiet : deliver (st', out) = (st', out) := by
      simp only [step] at h
      split at h <;> cases h <;> rfl
    exact ⟨_, h, hquiet⟩
  | packet s m rand => exact of_map_ok h
  | poll j now => exact of_map_ok h

theorem mail_arrives {x : Process DB × Outbox} (hreg : Registered st') (h : deliver x = (st', out))
    (hrole : (lobby st'.cache).role t ≠ none) : mail t out = mail t x.2 := by
  have hlisten : ∀ s, listener x.1 s = listener st' s := by
    intro s
    rw [← deliver_listener x s, h]
  have hout : out = (deliver x).2 := by rw [h]
  rw [hout]
  refine mail_deliver ?_ ?_
  · rw [hlisten, hreg t]
    rw [role_lobby, ne_eq, Option.map_eq_none_iff] at hrole
    obtain ⟨e, he⟩ := Option.ne_none_iff_exists'.mp hrole
    rw [sessions_of_entity he]
    rfl
  · intro s u hu
    rw [hlisten, hreg s] at hu
    obtain ⟨-, -, rfl⟩ := Option.map_eq_some_iff.mp hu
    rfl

theorem faithful_step (hall : AllRecorded (lobby st.cache)) (hreg : Registered st') {v : Replica}
    (h : Faithful t v (lobby st.cache)) (hstep : step sqlite st a = .ok (st', out))
    (hs : Steady t (lobby st.cache) (event sqlite st a)) :
    Faithful t (v.readAll t out) (lobby st'.cache) := by
  obtain ⟨x, hh, hx⟩ := step_handled hstep
  have hcache : lobby st'.cache = lobby x.1.cache := by rw [cache_of_deliver hx]
  have href := step_refines hstep
  rw [hcache] at href ⊢
  have hfaith := faithful_handled hall h hh href hs
  refine ⟨hfaith.alone, hfaith.present, ?_⟩
  intro k r hr ht
  have hrole := hfaith.present k ht
  rw [← hcache] at hrole
  rw [Replica.readAll, mail_arrives hreg hx hrole]
  exact hfaith.mirrors k r hr ht

theorem faithful {tr : List (Process DB × Action)} (h : ServerRun sqlite db tr st)
    (hc : ∀ x ∈ tr, Steady t (lobby x.1.cache) (event sqlite x.1 x.2)) :
    Faithful t (replica sqlite t tr) (lobby st.cache) := by
  refine Run.always (I := fun tr st => Faithful t (replica sqlite t tr) (lobby st.cache))
    (C := fun st a => Steady t (lobby st.cache) (event sqlite st a)) ?_ ?_ h hc
  · rw [lobby_start]
    have hnowhere : ∀ k, t ∉ sockets emptyLobby k := fun k hk => by cases hk
    exact ⟨fun j _ hj => absurd hj (hnowhere j), fun k hk => absurd hk (hnowhere k),
      fun k _ _ hk => absurd hk (hnowhere k)⟩
  · rintro tr st a st' hrun hi hs ⟨out, hstep⟩
    have hall := lobby_invariant allRecorded_empty (fun _ _ => allRecorded_apply) hrun
    have hreg := registered (Run.cons hrun ⟨out, hstep⟩)
    have hwritten : written sqlite st a = out := by
      simp only [written, hstep]
    have hfaith := faithful_step hall hreg hi hstep hs
    rw [← hwritten] at hfaith
    exact hfaith

/-- Whatever the other clients do, the packets that a member of a room has been
sent tell it the room that the server stores. -/
theorem replica_of_member (tr : List (Process DB × Action)) (st : Process DB) (t : SOCKET)
    (h : ServerRun sqlite db tr st)
    (hc : ∀ x ∈ tr, Steady t (lobby x.1.cache) (event sqlite x.1 x.2)) (k : Int) (r : RoomInfo)
    (hr : st.cache.FindEntityRoom k = some r) (ht : t ∈ r.playerinfo.map PlayerInfo.socket) :
    Mirrors (replica sqlite t tr) r :=
  (faithful h hc).mirrors k r hr ((mem_sockets hr).mpr ht)

/-- A check for steadiness: no room is stored yet, or the event is another client's. -/
theorem steady_of_check {c : CCache} {ev : Event}
    (h : (c.m_mEntityRoom.isEmpty || client ev ≠ some t) = true) : Steady t (lobby c) ev := by
  have hclient : client ev = some t → ∀ k, t ∉ sockets (lobby c) k := by
    intro hev k hk
    simp only [hev, ne_eq, not_true_eq_false, decide_false, Bool.or_false] at h
    have hroom : (lobby c).room k = none := Std.TreeMap.getElem?_of_isEmpty h
    rw [sockets, roster, hroom] at hk
    cases hk
  cases ev with
  | create s id roomname =>
    rintro rfl
    exact hclient rfl
  | join s j team teamid via =>
    rintro rfl
    exact hclient rfl
  | evict s =>
    rintro rfl
    exact hclient rfl
  | _ => exact trivial

/-- The owner of a room has been told of the two clients who joined it. -/
theorem owner_mirrors : ∃ tr st, ServerRun noTables () tr st ∧
    actions tr = [.accept 7 0, createRoom 7, .accept 8 0, joinTeam 8 111111 .Team_B 0, .accept 9 0,
      joinTeam 9 111111 .Team_B 1] ∧
    ∃ r, st.cache.FindEntityRoom 111111 = some r ∧ r.playerinfo.map PlayerInfo.socket = [7, 8, 9] ∧
      Mirrors (replica noTables 7 tr) r := by
  obtain ⟨tr, st, hrun, hact, htest⟩ := exists_run noTables ()
    [.accept 7 0, createRoom 7, .accept 8 0, joinTeam 8 111111 .Team_B 0, .accept 9 0,
      joinTeam 9 111111 .Team_B 1]
    (fun (tr : List (Process Unit × Action)) st =>
      ((st.cache.FindEntityRoom 111111).any fun r : RoomInfo =>
        decide (r.playerinfo.map PlayerInfo.socket = [7, 8, 9])) &&
      tr.all fun x : Process Unit × Action => x.1.cache.m_mEntityRoom.isEmpty ||
        client (event noTables x.1 x.2) ≠ some 7)
    (by decide +kernel)
  obtain ⟨hroom, hsteady⟩ := Bool.and_eq_true_iff.mp htest
  obtain ⟨r, hr, hsockets⟩ := (Option.any_eq_true _ _).mp hroom
  have hsockets := of_decide_eq_true hsockets
  refine ⟨tr, st, hrun, hact, r, hr, hsockets, ?_⟩
  refine replica_of_member tr st 7 hrun ?_ 111111 r hr ?_
  · intro x hx
    exact steady_of_check (List.all_eq_true.mp hsteady x hx)
  · rw [hsockets]
    exact List.mem_cons_self

end Run

end JiraGame.Replicas
