import JiraGame.Links
import JiraGame.RoomRecord

namespace JiraGame.MemberCopies

open JiraGame.Scene JiraGame.DBServer JiraGame.HallScene JiraGame.MainScene
open JiraGame.AccountScenes JiraGame.ServerState JiraGame.Server JiraGame.RoomTable
open JiraGame.Refinement JiraGame.RoomChanges JiraGame.RoomRecord JiraGame.Membership
open JiraGame.Runs JiraGame.Links JiraGame.Lib.History

/-- What a roster entry and the role info of its client both record. -/
def facts (p : PlayerInfo) : Int × Bool × TeamType × Int :=
  (p.roleid, p.isroomctl, p.team, p.teamid)

/-- The entries of a client in the room that its role info names agree with it. -/
def Agrees (l : Lobby) (s : SOCKET) (p : PlayerInfo) : Prop :=
  ∀ x ∈ roster l p.roomid, x.socket = s → facts x = facts p

/-- The two copies of a member's data agree in every room. -/
def AllAgree (l : Lobby) : Prop :=
  ∀ k r, l.room k = some r → ∀ x ∈ r.playerinfo, ∀ p, l.role x.socket = some p → p.roomid = k →
    facts x = facts p

def heir (via : LeavePath) (p : PlayerInfo) (r : RoomInfo) : Option PlayerInfo :=
  if lastLeaves r then none else (stay via p r.playerinfo).2

/-- The role info of a client, with the owner flag if the client is the heir. -/
def inherited (o : Option PlayerInfo) (s : SOCKET) (p : PlayerInfo) : PlayerInfo :=
  if o.map PlayerInfo.socket = some s then p.set_isroomctl true else p

/-- What a leave of the client with role info `p` from the room `r` has to find:
the client has no other entry in room 0 than such as agree with it, and the heir
is owner already wherever else it has an entry in the room it says it is in. -/
structure LeaveAgrees (l : Lobby) (s : SOCKET) (k : Int) (via : LeavePath) (p : PlayerInfo)
    (r : RoomInfo) : Prop where
  outside : k ≠ 0 → ∀ x ∈ roster l 0, x.socket = s → facts x = facts (inherited (heir via p r) s p)
  inside : k = 0 → lastLeaves r = false → ∀ x ∈ r.playerinfo, x.socket = s → x.roleid = p.roleid
  flagged : ∀ q, heir via p r = some q → q.socket ≠ s → ∀ p', l.role q.socket = some p' →
    ∀ x ∈ roster l p'.roomid, x.socket = q.socket →
      (p'.roomid = k ∧ x.seat = q.seat) ∨ x.isroomctl = true

/-- The two copies stay in agreement: a sync or a new role of a listed client
repeats what is recorded, a client joins without owner flag and only where it has
no entry, and room 0 holds no stale entries of those who get there. -/
def KeepsAgreement (l : Lobby) : Event → Prop
  | .enter s => ∀ x ∈ roster l 0, x.socket = s → facts x = facts {}
  | .select s _ (some (userID, _)) => ∀ p, l.role s = some p → s ∈ sockets l p.roomid →
      userID = p.roleid
  | .sync s payload => ∀ p, l.role s = some p → s ∈ sockets l p.roomid →
      payload.isroomctl = p.isroomctl ∧ payload.team = p.team ∧ payload.teamid = p.teamid
  | .create s id _ => ∀ p, l.role s = some p → s ∈ sockets l id →
      l.room id = none ∨ p.isroomctl = true ∧ p.team = .Team_A ∧ p.teamid = 0
  | .join s k _ _ _ => ∀ p, l.role s = some p → p.isroomctl = false ∧ s ∉ sockets l k
  | .leave s k via => ∀ p r, l.role s = some p → l.room k = some r → LeaveAgrees l s k via p r
  | .gameOver _ k => k ≠ 0 → ∀ t ∈ sockets l k, ∀ p, l.role t = some p →
      ∀ x ∈ roster l 0, x.socket = t → facts x = facts p
  | _ => True

variable {l l' : Lobby} {ev : Event} {s : SOCKET} {k : Int} {f : PlayerInfo → PlayerInfo}

theorem mem_roster {x : PlayerInfo} (h : x ∈ roster l k) : ∃ r, l.room k = some r ∧ x ∈ r.playerinfo := by
  cases hr : l.room k with
  | none => simp [roster, hr] at h
  | some r =>
    rw [roster_of_room hr] at h
    exact ⟨r, rfl, h⟩

theorem allAgree_iff : AllAgree l ↔ ∀ s p, l.role s = some p → Agrees l s p := by
  refine ⟨?_, ?_⟩
  · intro h s p hp x hx hs
    obtain ⟨r, hr, hmem⟩ := mem_roster hx
    subst hs
    exact h p.roomid r hr x hmem p hp rfl
  · intro h k r hr x hx p hp hk
    subst hk
    refine h x.socket p hp x ?_ rfl
    rw [roster_of_room hr]
    exact hx

theorem allAgree_setRole_iff (h : AllAgree l) (o : Option PlayerInfo) :
    AllAgree (l.setRole s o) ↔ ∀ p, o = some p → Agrees l s p := by
  rw [allAgree_iff] at h ⊢
  exact Lobby.roles_setRole_iff h o

theorem allAgree_modify_iff (h : AllAgree l) :
    AllAgree (l.modify s f) ↔ ∀ p, l.role s = some p → Agrees l s (f p) := by
  rw [allAgree_iff] at h ⊢
  exact Lobby.roles_modify_iff h

/-- A role info that stays in its room agrees if nothing listed there changes. -/
theorem agrees_iff_of_listed {p q : PlayerInfo} (h : Agrees l s p) (hroom : q.roomid = p.roomid) :
    Agrees l s q ↔ (s ∈ sockets l p.roomid → facts p = facts q) := by
  rw [Agrees, hroom]
  refine ⟨?_, ?_⟩
  · intro hq hs
    obtain ⟨x, hx, hxs⟩ := List.mem_map.mp hs
    rw [← h x hx hxs]
    exact hq x hx hxs
  · intro hq x hx hxs
    rw [h x hx hxs]
    exact hq (List.mem_map.mpr ⟨x, hx, hxs⟩)

theorem AllAgree.agrees (h : AllAgree l) {p : PlayerInfo} (hp : l.role s = some p) : Agrees l s p :=
  allAgree_iff.mp h s p hp

theorem allAgree_modify_same (h : AllAgree l) (hroom : ∀ p, (f p).roomid = p.roomid)
    (hfacts : ∀ p, facts (f p) = facts p) : AllAgree (l.modify s f) := by
  rw [allAgree_modify_iff h]
  intro p hp
  exact (agrees_iff_of_listed (h.agrees hp) (hroom p)).mpr fun _ => (hfacts p).symm

theorem allAgree_select_iff (h : AllAgree l) {roletype : Int} {row : Option (Int × String)} :
    AllAgree (l.apply (.select s roletype row)) ↔ KeepsAgreement l (.select s roletype row) := by
  rw [Lobby.apply, allAgree_modify_iff h]
  cases row with
  | none =>
    refine ⟨fun _ => trivial, fun _ p hp => ?_⟩
    exact (agrees_iff_of_listed (q := selected roletype none p) (h.agrees hp) rfl).mpr fun _ => rfl
  | some x =>
    refine forall_congr' fun p => forall_congr' fun hp => ?_
    rw [agrees_iff_of_listed (q := selected roletype (some x) p) (h.agrees hp) rfl]
    refine forall_congr' fun _ => ?_
    have hx : facts (selected roletype (some x) p) = (x.1, p.isroomctl, p.team, p.teamid) := rfl
    rw [hx, facts, Prod.mk.injEq]
    exact ⟨fun he => he.1.symm, fun he => ⟨he.symm, rfl⟩⟩

theorem allAgree_sync_iff (h : AllAgree l) {payload : PlayerInfo} :
    AllAgree (l.apply (.sync s payload)) ↔ KeepsAgreement l (.sync s payload) := by
  rw [Lobby.apply, allAgree_modify_iff h]
  refine forall_congr' fun p => forall_congr' fun hp => ?_
  rw [agrees_iff_of_listed (q := resync payload p) (h.agrees hp) rfl]
  refine forall_congr' fun _ => ?_
  have hq : facts (resync payload p) =
      (p.roleid, payload.isroomctl, payload.team, payload.teamid) := rfl
  rw [hq, facts]
  simp only [Prod.mk.injEq, true_and]
  exact ⟨fun he => ⟨he.1.symm, he.2.1.symm, he.2.2.symm⟩,
    fun he => ⟨he.1.symm, he.2.1.symm, he.2.2.symm⟩⟩

theorem allAgree_create_iff (h : AllAgree l) {roomname : String}
    (hen : l.Enabled (.create s k roomname)) :
    AllAgree (l.apply (.create s k roomname)) ↔ KeepsAgreement l (.create s k roomname) := by
  obtain ⟨p, hp, hroom, -, hfresh⟩ := hen
  cases hr : l.room k with
  | none =>
    refine ⟨fun _ _ _ _ => .inl hr, fun _ => ?_⟩
    have hroster : roster (l.apply (.create s k roomname)) =
        Function.update (roster l) k [ownerEntry s p] := by
      rw [roster_create hp, if_pos hr]
    have hrole : ∀ t, (l.apply (.create s k roomname)).role t =
        if t = s then some (asOwner k p) else l.role t := by
      intro t
      simp [Lobby.apply, hp, hr]
    rw [allAgree_iff]
    intro t q hq x hx hxt
    rw [hrole] at hq
    rw [hroster, Function.update_apply] at hx
    split at hq
    · rename_i ht
      cases hq
      have hroomid : (asOwner k p).roomid = k := rfl
      rw [if_pos hroomid, List.mem_singleton] at hx
      rw [hx]
      rfl
    · rename_i ht
      split at hx
      · rw [List.mem_singleton.mp hx] at hxt
        exact absurd hxt.symm ht
      · exact h.agrees hq x hx hxt
  | some r =>
    have hk : k = p.roomid := by
      rw [hroom]
      by_contra hne
      rw [hfresh hne] at hr
      cases hr
    have hafter : l.apply (.create s k roomname) = l.modify s (asOwner k) := by
      simp [Lobby.apply, hp, hr]
    rw [hafter, allAgree_modify_iff h]
    refine forall_congr' fun q => forall_congr' fun hq => ?_
    rw [hp, Option.some.injEq] at hq
    subst hq
    rw [agrees_iff_of_listed (q := asOwner k p) (h.agrees hp) hk, ← hk]
    refine forall_congr' fun _ => ?_
    have hq : facts (asOwner k p) = (p.roleid, true, .Team_A, 0) := rfl
    rw [hq, facts]
    simp [hr]

theorem allAgree_join_iff (hall : AllRecorded l) (h : AllAgree l) {team : TeamType} {teamid : Int}
    {via : JoinPath} (hen : l.Enabled (.join s k team teamid via)) :
    AllAgree (l.apply (.join s k team teamid via)) ↔
      KeepsAgreement l (.join s k team teamid via) := by
  obtain ⟨p, r, hp, hr, hfree, -⟩ := hen
  have hroster : roster (l.apply (.join s k team teamid via)) =
      Function.update (roster l) k (roster l k ++ [entryOf via s p r team teamid]) :=
    roster_join hp hr
  have hrole : ∀ t, (l.apply (.join s k team teamid via)).role t =
      if t = s then some (asMember k team teamid p) else l.role t := by
    intro t
    simp [Lobby.apply, hp, hr, hall.keyed k r hr]
  have hroomid : (asMember k team teamid p).roomid = k := rfl
  have hentry : facts (entryOf via s p r team teamid) = (p.roleid, false, team, teamid) := by
    cases via <;> rfl
  have hmember : facts (asMember k team teamid p) = (p.roleid, p.isroomctl, team, teamid) := rfl
  rw [allAgree_iff]
  refine ⟨?_, ?_⟩
  · intro hafter q hq
    rw [hp, Option.some.injEq] at hq
    subst hq
    have hagree := hafter s (asMember k team teamid p) (by rw [hrole, if_pos rfl])
    rw [Agrees, hroomid, hroster, Function.update_self] at hagree
    refine ⟨?_, ?_⟩
    · have hnew := hagree _ (List.mem_append_right _ (List.mem_singleton.mpr rfl))
        (socket_entryOf via s p r team teamid)
      rw [hentry, hmember, Prod.mk.injEq, Prod.mk.injEq] at hnew
      exact hnew.2.1.symm
    · intro hs
      obtain ⟨x, hx, hxs⟩ := List.mem_map.mp hs
      have hold := hagree x (List.mem_append_left _ hx) hxs
      rw [hmember, facts, Prod.mk.injEq, Prod.mk.injEq] at hold
      rw [roster_of_room hr] at hx
      exact hfree x hx hold.2.2
  · intro hkeeps t q hq x hx hxt
    obtain ⟨hctl, hs⟩ := hkeeps p hp
    rw [hrole] at hq
    rw [hroster, Function.update_apply] at hx
    split at hq
    · rename_i ht
      subst ht
      cases hq
      rw [if_pos hroomid, List.mem_append, List.mem_singleton] at hx
      obtain hx | rfl := hx
      · exact absurd (List.mem_map.mpr ⟨x, hx, hxt⟩) hs
      · rw [hentry, hmember, hctl]
    · rename_i ht
      split at hx
      · rename_i hqk
        rw [List.mem_append, List.mem_singleton] at hx
        obtain hx | rfl := hx
        · rw [← hqk] at hx
          exact h.agrees hq x hx hxt
        · rw [socket_entryOf] at hxt
          exact absurd hxt.symm ht
      · exact h.agrees hq x hx hxt

theorem allAgree_over_iff (h : AllAgree l) :
    AllAgree (l.apply (.gameOver s k)) ↔ KeepsAgreement l (.gameOver s k) := by
  have hroster : roster (l.apply (.gameOver s k)) = _ := roster_over
  rw [allAgree_iff]
  refine ⟨?_, ?_⟩
  · intro hafter hk0 t ht p hp x hx hxt
    have hagree := hafter t (p.set_roomid 0) (by rw [role_over, if_pos ht, hp]; rfl)
    have h0 : (p.set_roomid 0).roomid = 0 := rfl
    refine hagree x ?_ hxt
    rw [h0, hroster, Function.update_of_ne fun h0 => hk0 h0.symm]
    exact hx
  · intro hkeeps t q hq x hx hxt
    rw [role_over] at hq
    rw [hroster, Function.update_apply] at hx
    split at hx
    · cases hx
    · rename_i hne
      split at hq
      · rename_i ht
        obtain ⟨p, hp, rfl⟩ := Option.map_eq_some_iff.mp hq
        exact hkeeps (fun h0 => hne h0.symm) t ht p hp x hx hxt
      · exact h.agrees hq x hx hxt

section Leave

variable {p : PlayerInfo} {r : RoomInfo} {via : LeavePath}

theorem heir_stays (hnd : (r.playerinfo.map PlayerInfo.seat).Nodup) {q : PlayerInfo}
    (h : heir via p r = some q) :
    lastLeaves r = false ∧ ∃ y ∈ r.playerinfo, y.roleid ≠ p.roleid ∧ q = y.set_isroomctl true := by
  rw [heir] at h
  split at h
  · cases h
  · rename_i hlast
    have hmem := stay_owner_mem h
    rw [stay_crown via p hnd, h] at hmem
    obtain ⟨y, hy, hq⟩ := List.mem_map.mp hmem
    rw [List.mem_filter, decide_eq_true_eq] at hy
    refine ⟨by simpa using hlast, y, hy.1, hy.2, ?_⟩
    rw [crown] at hq
    split at hq
    · exact hq.symm
    · rename_i hseat
      rw [hq] at hseat
      exact absurd rfl hseat

theorem mem_left_roster (hall : AllRecorded l) (hp : l.role s = some p) (hr : l.room k = some r)
    {x : PlayerInfo} : x ∈ roster (l.apply (.leave s k via)) k ↔
      lastLeaves r = false ∧ ∃ y ∈ r.playerinfo, y.roleid ≠ p.roleid ∧
        crown (heir via p r) y = x := by
  rw [roster_leave hall.keyed hp hr, Function.update_self, roster_of_room hr, heir]
  cases lastLeaves r with
  | true => simp
  | false =>
    simp only [Bool.false_eq_true, if_false, true_and]
    rw [stay_crown via p (hall k r hr).seats, List.mem_map]
    simp [and_assoc]

theorem inherited_self {o : Option PlayerInfo} {t : SOCKET}
    (h : o.map PlayerInfo.socket = some t) : inherited o t = (·.set_isroomctl true) := by
  funext p
  exact if_pos h

theorem inherited_other {o : Option PlayerInfo} {t : SOCKET}
    (h : o.map PlayerInfo.socket ≠ some t) : inherited o t = id := by
  funext p
  exact if_neg h

theorem role_promote (o : Option PlayerInfo) (t : SOCKET) :
    (l.promote o).role t = (l.role t).map (inherited o t) := by
  by_cases h : o.map PlayerInfo.socket = some t
  · obtain ⟨q, rfl, hq⟩ := Option.map_eq_some_iff.mp h
    rw [inherited_self h, Lobby.promote, Lobby.role_modify, if_pos hq.symm, hq]
  · rw [inherited_other h, Option.map_id]
    cases o with
    | none => rfl
    | some q =>
      rw [Lobby.promote, Lobby.role_modify, if_neg]
      · rfl
      · intro ht
        exact h (congrArg some ht.symm)

theorem role_leave (hk : Keyed l) (hp : l.role s = some p) (hr : l.room k = some r) (t : SOCKET) :
    (l.apply (.leave s k via)).role t =
      if t = s then some (asIdle (inherited (heir via p r) s p))
      else (l.role t).map (inherited (heir via p r) t) := by
  simp only [Lobby.apply, hp, hr, leaveKey_eq hk hr, heir]
  cases lastLeaves r with
  | true =>
    simp only [if_true]
    rw [Lobby.role_modify, Lobby.role_setRoom, hp, inherited_other (by simp), inherited_other (by simp),
      Option.map_id]
    rfl
  | false =>
    simp only [Bool.false_eq_true, if_false]
    rw [Lobby.role_setRoom, Lobby.role_modify, role_promote, role_promote, hp]
    rfl

theorem facts_set_isroomctl (p : PlayerInfo) :
    facts (p.set_isroomctl true) = (p.roleid, true, p.team, p.teamid) := rfl

theorem facts_flagged {x q : PlayerInfo} (h : facts x = facts q) :
    facts (x.set_isroomctl true) = facts (q.set_isroomctl true) := by
  rw [facts, facts, Prod.mk.injEq, Prod.mk.injEq] at h
  rw [facts_set_isroomctl, facts_set_isroomctl, h.1, h.2.2]

theorem facts_owner {x q : PlayerInfo} (h : facts x = facts q) (hx : x.isroomctl = true) :
    facts x = facts (q.set_isroomctl true) := by
  rw [facts, facts, Prod.mk.injEq, Prod.mk.injEq] at h
  rw [facts_set_isroomctl, facts, h.1, h.2.2, hx]

theorem leaveAgrees_of_allAgree (hall : AllRecorded l) (h : AllAgree l) (hp : l.role s = some p)
    (hr : l.room k = some r) (hafter : AllAgree (l.apply (.leave s k via))) :
    LeaveAgrees l s k via p r := by
  have hroster : roster (l.apply (.leave s k via)) = _ := roster_leave hall.keyed hp hr
  have hnd := (hall k r hr).seats
  have hleaver : Agrees (l.apply (.leave s k via)) s (asIdle (inherited (heir via p r) s p)) :=
    hafter.agrees (by rw [role_leave hall.keyed hp hr, if_pos rfl])
  have hzero : (asIdle (inherited (heir via p r) s p)).roomid = 0 := rfl
  rw [Agrees, hzero] at hleaver
  refine ⟨?_, ?_, ?_⟩
  · intro hk0 x hx hxs
    refine hleaver x ?_ hxs
    rw [hroster, Function.update_of_ne fun h0 => hk0 h0.symm]
    exact hx
  · intro hk0 hlast x hx hxs
    by_contra hne
    -- the entry stays in room 0, but has not the role id of its client
    have hmem : crown (heir via p r) x ∈ roster (l.apply (.leave s k via)) 0 := by
      rw [← hk0, mem_left_roster hall hp hr]
      exact ⟨hlast, x, hx, hne, rfl⟩
    have hfacts := congrArg Prod.fst (hleaver _ hmem ((socket_crown _ x).trans hxs))
    refine hne ((roleid_crown _ x).symm.trans (hfacts.trans ?_))
    rw [inherited]
    split <;> rfl
  · intro q hq hqs p' hp' x hx hxq
    have hown := h.agrees hp' x hx hxq
    have hrole : (l.apply (.leave s k via)).role q.socket = some (p'.set_isroomctl true) := by
      rw [role_leave hall.keyed hp hr, if_neg hqs, hp', hq, inherited_self rfl]
      rfl
    have hagree := hafter.agrees hrole
    by_cases hpk : p'.roomid = k
    · obtain ⟨hlast, y, hy, hyid, hqy⟩ := heir_stays hnd hq
      by_cases hseat : x.seat = q.seat
      · exact .inl ⟨hpk, hseat⟩
      · -- the other entries of the new owner stay as they are
        have hyp : facts y = facts p' := by
          refine h.agrees hp' y ?_ (by rw [hqy]; rfl)
          rw [hpk, roster_of_room hr]
          exact hy
        have hxid : x.roleid ≠ p.roleid := by
          have hxy : x.roleid = y.roleid := congrArg Prod.fst (hown.trans hyp.symm)
          rw [hxy]
          exact hyid
        have hxr : x ∈ r.playerinfo := by
          rw [hpk, roster_of_room hr] at hx
          exact hx
        have hmem : x ∈ roster (l.apply (.leave s k via)) k := by
          rw [mem_left_roster hall hp hr]
          refine ⟨hlast, x, hxr, hxid, ?_⟩
          rw [hq, crown, if_neg hseat]
        have hsame : (p'.set_isroomctl true).roomid = k := hpk
        rw [Agrees, hsame] at hagree
        have hfacts : facts x = facts (p'.set_isroomctl true) := hagree x hmem hxq
        exact .inr (congrArg (fun y => y.2.1) hfacts)
    · have hmem : x ∈ roster (l.apply (.leave s k via)) p'.roomid := by
        rw [hroster, Function.update_of_ne hpk]
        exact hx
      have hfacts : facts x = facts (p'.set_isroomctl true) := hagree x hmem hxq
      exact .inr (congrArg (fun y => y.2.1) hfacts)

theorem allAgree_of_leaveAgrees (hall : AllRecorded l) (h : AllAgree l) (hp : l.role s = some p)
    (hr : l.room k = some r) (hc : LeaveAgrees l s k via p r) :
    AllAgree (l.apply (.leave s k via)) := by
  have hroster : roster (l.apply (.leave s k via)) = _ := roster_leave hall.keyed hp hr
  have hnd := (hall k r hr).seats
  rw [allAgree_iff]
  intro t q hq x hx hxt
  rw [role_leave hall.keyed hp hr] at hq
  by_cases ht : t = s
  · subst ht
    rw [if_pos rfl, Option.some.injEq] at hq
    subst hq
    have hzero : (asIdle (inherited (heir via p r) t p)).roomid = 0 := rfl
    rw [hzero] at hx
    by_cases hk0 : k = 0
    · rw [← hk0, mem_left_roster hall hp hr] at hx
      obtain ⟨hlast, y, hy, hyid, rfl⟩ := hx
      have hys : y.socket = t := (socket_crown _ y).symm.trans hxt
      exact absurd (hc.inside hk0 hlast y hy hys) hyid
    · rw [hroster, Function.update_of_ne fun h0 => hk0 h0.symm] at hx
      exact hc.outside hk0 x hx hxt
  · rw [if_neg ht] at hq
    obtain ⟨p', hp', rfl⟩ := Option.map_eq_some_iff.mp hq
    by_cases hheir : (heir via p r).map PlayerInfo.socket = some t
    · obtain ⟨o, ho, hot⟩ := Option.map_eq_some_iff.mp hheir
      have hflag : ∀ z ∈ roster l p'.roomid, z.socket = t →
          (p'.roomid = k ∧ z.seat = o.seat) ∨ z.isroomctl = true := by
        subst hot
        exact hc.flagged o ho ht p' hp'
      have hroomid : (p'.set_isroomctl true).roomid = p'.roomid := rfl
      simp only [inherited_self hheir, hroomid] at hx ⊢
      by_cases hpk : p'.roomid = k
      · rw [hpk, mem_left_roster hall hp hr] at hx
        obtain ⟨hlast, y, hy, hyid, rfl⟩ := hx
        rw [ho, crown] at hxt ⊢
        have hyr : y ∈ roster l p'.roomid := by
          rw [hpk, roster_of_room hr]
          exact hy
        split at hxt
        · rename_i hseat
          rw [if_pos hseat]
          exact facts_flagged (h.agrees hp' y hyr hxt)
        · rename_i hseat
          rw [if_neg hseat]
          obtain ⟨-, hs⟩ | hctl := hflag y hyr hxt
          · exact absurd hs hseat
          · exact facts_owner (h.agrees hp' y hyr hxt) hctl
      · rw [hroster, Function.update_of_ne hpk] at hx
        obtain ⟨hs, -⟩ | hctl := hflag x hx hxt
        · exact absurd hs hpk
        · exact facts_owner (h.agrees hp' x hx hxt) hctl
    · rw [inherited_other hheir] at hx ⊢
      rw [id] at hx ⊢
      by_cases hpk : p'.roomid = k
      · rw [hpk, mem_left_roster hall hp hr] at hx
        obtain ⟨hlast, y, hy, hyid, rfl⟩ := hx
        -- the entry is not on the seat of the new owner, who is another client
        have hsame : crown (heir via p r) y = y := by
          refine crown_of_ne ?_
          intro q hq hseat
          obtain ⟨-, z, hz, -, rfl⟩ := heir_stays hnd hq
          have hyz : y = z := List.inj_on_of_nodup_map hnd hy hz hseat
          refine hheir ?_
          rw [hq, Option.map_some, ← hxt, socket_crown, hyz]
          rfl
        rw [hsame] at hxt ⊢
        refine h.agrees hp' y ?_ hxt
        rw [hpk, roster_of_room hr]
        exact hy
      · rw [hroster, Function.update_of_ne hpk] at hx
        exact h.agrees hp' x hx hxt

end Leave

theorem allAgree_apply_iff (hall : AllRecorded l) (h : AllAgree l) (hen : l.Enabled ev) :
    AllAgree (l.apply ev) ↔ KeepsAgreement l ev := by
  cases ev with
  | quiet => exact ⟨fun _ => trivial, fun _ => h⟩
  | start s => exact ⟨fun _ => trivial, fun _ => h⟩
  | enter s =>
    rw [Lobby.apply, allAgree_setRole_iff h]
    exact ⟨fun hq => hq {} rfl, fun hq p hp => by cases hp; exact hq⟩
  | evict s => exact ⟨fun _ => trivial, fun _ => (allAgree_setRole_iff h _).mpr fun p hp => by cases hp⟩
  | select s roletype row => exact allAgree_select_iff h
  | wait s =>
    exact ⟨fun _ => trivial, fun _ => allAgree_modify_same h (fun _ => rfl) fun _ => rfl⟩
  | sync s payload => exact allAgree_sync_iff h
  | create s id roomname => exact allAgree_create_iff h hen
  | join s k team teamid via => exact allAgree_join_iff hall h hen
  | leave s k via =>
    obtain ⟨p, r, hp, hr, -⟩ := hen
    refine ⟨?_, ?_⟩
    · intro hafter p₁ r₁ hp₁ hr₁
      rw [hp, Option.some.injEq] at hp₁
      rw [hr, Option.some.injEq] at hr₁
      subst hp₁ hr₁
      exact leaveAgrees_of_allAgree hall h hp hr hafter
    · intro hc
      exact allAgree_of_leaveAgrees hall h hp hr (hc p r hp hr)
  | gameOver s k => exact allAgree_over_iff h

theorem allAgree_empty : AllAgree emptyLobby := by
  intro k r h
  cases h

variable {DB : Type} {sqlite : Sqlite DB} {db : DB}

/-- Rosters and role infos agree about the members throughout a run exactly when
every step keeps the two copies together. -/
theorem allAgree_iff_keepsAgreement (tr : List (Process DB × Action)) (st : Process DB)
    (h : ServerRun sqlite db tr st) :
    (∀ x ∈ points tr st, AllAgree (lobby x.2.cache)) ↔
      ∀ x ∈ tr, KeepsAgreement (lobby x.1.cache) (event sqlite x.1 x.2) :=
  lobby_always_iff allRecorded_empty (fun _ _ => allRecorded_apply) allAgree_empty
    (fun _ _ => allAgree_apply_iff) h

theorem allAgree_after_joining : ∃ tr st, ServerRun noTables () tr st ∧
    actions tr = [.accept 7 0, createRoom 7, .accept 8 0, joinTeam 8 111111 .Team_B 0] ∧
    ((∀ x ∈ points tr st, AllAgree (lobby x.2.cache)) ↔
      ∀ x ∈ tr, KeepsAgreement (lobby x.1.cache) (event noTables x.1 x.2)) := by
  obtain ⟨tr, st, hrun, hact, -⟩ := exists_run noTables ()
    [.accept 7 0, createRoom 7, .accept 8 0, joinTeam 8 111111 .Team_B 0] (fun _ _ => true)
    (by decide +kernel)
  exact ⟨tr, st, hrun, hact, allAgree_iff_keepsAgreement tr st hrun⟩

/-- A leave keeps the owner flag in the role info, and a join elsewhere does not
take it out. -/
theorem former_owner_parts_copies : ∃ tr st, ServerRun noTables () tr st ∧
    actions tr = [.accept 7 0, createRoom 7, leaveRoom 7, .accept 8 0, createRoom 8,
      joinTeam 7 111111 .Team_B 0] ∧ ¬ AllAgree (lobby st.cache) := by
  obtain ⟨tr, st, hrun, hact, hq⟩ := exists_run noTables ()
    [.accept 7 0, createRoom 7, leaveRoom 7, .accept 8 0, createRoom 8, joinTeam 7 111111 .Team_B 0]
    (fun _ st => (st.cache.FindEntityRoom 111111).any fun r =>
      r.playerinfo.map (fun x => (x.socket, x.isroomctl)) = [(8, true), (7, false)] &&
        ((lobby st.cache).role 7).any fun p => p.roomid = 111111 && p.isroomctl)
    (by decide +kernel)
  refine ⟨tr, st, hrun, hact, ?_⟩
  intro hall
  obtain ⟨r, hr, hq⟩ := Option.any_eq_true _ _ |>.mp hq
  rw [Bool.and_eq_true, decide_eq_true_eq] at hq
  obtain ⟨hroster, hq⟩ := hq
  obtain ⟨p, hp, hq⟩ := Option.any_eq_true _ _ |>.mp hq
  rw [Bool.and_eq_true, decide_eq_true_eq] at hq
  obtain ⟨x, hx, hxs⟩ : ∃ x ∈ r.playerinfo, (x.socket, x.isroomctl) = (7, false) := by
    rw [← List.mem_map, hroster]
    exact List.mem_cons_of_mem _ (List.mem_singleton.mpr rfl)
  rw [Prod.mk.injEq] at hxs
  have hagree := hall 111111 r hr x hx p (by rw [hxs.1]; exact hp) hq.1
  have hflag : x.isroomctl = p.isroomctl := congrArg (fun y => y.2.1) hagree
  rw [hxs.2, hq.2] at hflag
  cases hflag

end JiraGame.MemberCopies
