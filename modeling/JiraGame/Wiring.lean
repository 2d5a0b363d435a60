import JiraGame.Heartbeats
import JiraGame.Runs

namespace JiraGame.Wiring

open JiraGame.Scene JiraGame.Command JiraGame.DBServer JiraGame.Cache JiraGame.ServerState
open JiraGame.KeepAlive JiraGame.Server JiraGame.Heartbeats JiraGame.Runs
open JiraGame.Lib.History

def restingHeart : Heart where
  client := fun _ => none
  erased := []
  keepAliveInfo := fun _ => none
  info := fun _ => none
  nextAddr := 0
  loops := []
  preTime := none

/-- How entities, records and loops point to each other. Addresses are not used
twice, a stored entity's callback argument is the record of its socket, and the
evicted entities stay stopped. -/
structure Wired (h : Heart) : Prop where
  addr_lt : ∀ s e, h.client s = some e → e.addr < h.nextAddr
  addr_inj : ∀ s t e f, h.client s = some e → h.client t = some f → e.addr = f.addr → s = t
  gone_lt : ∀ e ∈ h.erased, e.addr < h.nextAddr
  gone_stopped : ∀ e ∈ h.erased, e.m_ThreadPower = true
  gone_ne : ∀ e ∈ h.erased, ∀ s f, h.client s = some f → f.addr ≠ e.addr
  loop_lt : ∀ l ∈ h.loops, l.self < h.nextAddr
  loop_sock : ∀ l ∈ h.loops, ∀ s e, h.client s = some e → e.addr = l.self → l.sockClient = s
  loop_arg : ∀ l ∈ h.loops, ∀ s e, h.client s = some e → e.addr = l.self → e.m_pTimeFuncArg ≠ none
  info_lt : ∀ ptr info, h.info ptr = some info → ptr < h.nextAddr
  record : ∀ s e ptr, h.client s = some e → e.m_pTimeFuncArg = some ptr →
    h.keepAliveInfo s = some ptr ∧ ∃ info, h.info ptr = some info ∧ info.clientSocket = s

theorem client_setClient (h : Heart) (s t : SOCKET) (o : Option CClientEntity) :
    (h.setClient s o).client t = if t = s then o else h.client t := by
  rw [Heart.setClient]
  dsimp only
  by_cases ht : t = s
  · rw [if_pos ht, ht, Function.update_self]
  · rw [if_neg ht, Function.update_of_ne ht]

/-- Who is on a socket after an entity was written: that one, or an old one elsewhere. -/
theorem of_setClient {h : Heart} {s t : SOCKET} {e f : CClientEntity}
    (hf : (h.setClient s (some e)).client t = some f) :
    t = s ∧ f = e ∨ t ≠ s ∧ h.client t = some f := by
  rw [client_setClient] at hf
  split at hf
  · rename_i hts
    exact .inl ⟨hts, (Option.some.inj hf).symm⟩
  · rename_i hts
    exact .inr ⟨hts, hf⟩

theorem setClient_ne_none {h : Heart} {s t : SOCKET} {e : CClientEntity} (ht : h.client t ≠ none) :
    (h.setClient s (some e)).client t ≠ none := by
  rw [client_setClient]
  split
  · exact Option.some_ne_none e
  · exact ht

theorem of_connect {h : Heart} {s t : SOCKET} {junk : Int} {f : CClientEntity}
    (hf : (h.apply (.connect s junk)).client t = some f) :
    t = s ∧ f = newcomer h.nextAddr s junk ∨ t ≠ s ∧ h.client t = some f := of_setClient hf

theorem of_startLoop {h : Heart} {s t : SOCKET} {m : UnPacket} {e f : CClientEntity}
    (hf : (h.startLoop s m e).client t = some f) :
    t = s ∧ f = timed h.nextAddr e ∨ t ≠ s ∧ h.client t = some f := of_setClient (h := h) hf

theorem mem_modify {loops : List TimerLoop} {j : Nat} {l : TimerLoop}
    (hl : l ∈ loops.modify j fun l => { l with running := false }) :
    ∃ l₀ ∈ loops, l₀.self = l.self ∧ l₀.sockClient = l.sockClient := by
  obtain ⟨i, hi⟩ := List.mem_iff_getElem?.mp hl
  rw [List.getElem?_modify] at hi
  obtain ⟨l₀, hl₀, rfl⟩ := Option.map_eq_some_iff.mp hi
  refine ⟨l₀, List.mem_of_getElem? hl₀, ?_⟩
  split <;> exact ⟨rfl, rfl⟩

@[simp] theorem report_client (h : Heart) (s : SOCKET) (m : UnPacket) :
    (h.report s m).client = h.client := by
  rw [Heart.report]
  repeat' split
  all_goals rfl

theorem of_dismiss {h : Heart} {s t : SOCKET} {ptr : Nat} {e f : CClientEntity}
    (hf : (h.dismiss s ptr e).client t = some f) : h.client t = some f ∧ t ≠ s := by
  have hf : (h.setClient s none).client t = some f := hf
  rw [client_setClient] at hf
  split at hf
  · cases hf
  · rename_i ht
    exact ⟨hf, ht⟩

namespace Wired

variable {h h' : Heart} {s : SOCKET} {e e' : CClientEntity} {ptr : Nat}

theorem resting : Wired restingHeart := by
  constructor <;> simp [restingHeart]

theorem congr (hw : Wired h) (hc : h'.client = h.client) (he : h'.erased = h.erased)
    (hk : h'.keepAliveInfo = h.keepAliveInfo) (hn : h'.nextAddr = h.nextAddr)
    (hi : ∀ ptr, (h'.info ptr).map (·.clientSocket) = (h.info ptr).map (·.clientSocket))
    (hl : ∀ l ∈ h'.loops, ∃ l₀ ∈ h.loops, l₀.self = l.self ∧ l₀.sockClient = l.sockClient) :
    Wired h' where
  addr_lt := by rw [hc, hn]; exact hw.addr_lt
  addr_inj := by rw [hc]; exact hw.addr_inj
  gone_lt := by rw [he, hn]; exact hw.gone_lt
  gone_stopped := by rw [he]; exact hw.gone_stopped
  gone_ne := by rw [he, hc]; exact hw.gone_ne
  loop_lt := by
    intro l hmem
    obtain ⟨l₀, hmem₀, hself, -⟩ := hl l hmem
    rw [hn, ← hself]
    exact hw.loop_lt l₀ hmem₀
  loop_sock := by
    intro l hmem s e hs haddr
    obtain ⟨l₀, hmem₀, hself, hsock⟩ := hl l hmem
    rw [hc] at hs
    rw [← hsock]
    exact hw.loop_sock l₀ hmem₀ s e hs (haddr.trans hself.symm)
  loop_arg := by
    intro l hmem s e hs haddr
    obtain ⟨l₀, hmem₀, hself, -⟩ := hl l hmem
    rw [hc] at hs
    exact hw.loop_arg l₀ hmem₀ s e hs (haddr.trans hself.symm)
  info_lt := by
    intro ptr info hinfo
    have hsome := hi ptr
    rw [hinfo] at hsome
    obtain ⟨info₀, hinfo₀, -⟩ := Option.map_eq_some_iff.mp hsome.symm
    rw [hn]
    exact hw.info_lt ptr info₀ hinfo₀
  record := by
    intro s e ptr hs harg
    rw [hc] at hs
    obtain ⟨hmap, info, hinfo, hsock⟩ := hw.record s e ptr hs harg
    have hsome := hi ptr
    rw [hinfo] at hsome
    obtain ⟨info', hinfo', hsame⟩ := Option.map_eq_some_iff.mp hsome
    exact ⟨by rw [hk]; exact hmap, info', hinfo', hsame.trans hsock⟩

theorem setClient (hw : Wired h) (hs : h.client s = some e) (haddr : e'.addr = e.addr)
    (harg : e'.m_pTimeFuncArg = e.m_pTimeFuncArg) : Wired (h.setClient s (some e')) := by
  have hold : ∀ t f, (h.setClient s (some e')).client t = some f →
      ∃ f₀, h.client t = some f₀ ∧ f.addr = f₀.addr ∧ f.m_pTimeFuncArg = f₀.m_pTimeFuncArg := by
    intro t f hf
    obtain ⟨rfl, rfl⟩ | ⟨-, hf⟩ := of_setClient hf
    · exact ⟨e, hs, haddr, harg⟩
    · exact ⟨f, hf, rfl, rfl⟩
  constructor
  · intro t f hf
    obtain ⟨f₀, hf₀, ha, -⟩ := hold t f hf
    rw [ha]
    exact hw.addr_lt t f₀ hf₀
  · intro t u f g hf hg heq
    obtain ⟨f₀, hf₀, ha, -⟩ := hold t f hf
    obtain ⟨g₀, hg₀, hb, -⟩ := hold u g hg
    exact hw.addr_inj t u f₀ g₀ hf₀ hg₀ (by rw [← ha, ← hb, heq])
  · exact hw.gone_lt
  · exact hw.gone_stopped
  · intro g hg t f hf
    obtain ⟨f₀, hf₀, ha, -⟩ := hold t f hf
    rw [ha]
    exact hw.gone_ne g hg t f₀ hf₀
  · exact hw.loop_lt
  · intro l hl t f hf heq
    obtain ⟨f₀, hf₀, ha, -⟩ := hold t f hf
    exact hw.loop_sock l hl t f₀ hf₀ (ha.symm.trans heq)
  · intro l hl t f hf heq
    obtain ⟨f₀, hf₀, ha, hb⟩ := hold t f hf
    rw [hb]
    exact hw.loop_arg l hl t f₀ hf₀ (ha.symm.trans heq)
  · exact hw.info_lt
  · intro t f ptr hf hb
    obtain ⟨f₀, hf₀, -, hc⟩ := hold t f hf
    exact hw.record t f₀ ptr hf₀ (hc.symm.trans hb)

theorem connect (hw : Wired h) (hs : h.client s = none) (junk : Int) :
    Wired (h.apply (.connect s junk)) := by
  constructor
  · intro t f hf
    obtain ⟨-, rfl⟩ | ⟨-, hf⟩ := of_connect hf
    · exact Nat.lt_succ_self _
    · exact Nat.lt_succ_of_lt (hw.addr_lt t f hf)
  · intro t u f g hf hg heq
    obtain ⟨rfl, rfl⟩ | ⟨-, hf⟩ := of_connect hf
    · obtain ⟨rfl, -⟩ | ⟨-, hg⟩ := of_connect hg
      · rfl
      · exact absurd heq (Nat.ne_of_gt (hw.addr_lt u g hg))
    · obtain ⟨-, rfl⟩ | ⟨-, hg⟩ := of_connect hg
      · exact absurd heq (Nat.ne_of_lt (hw.addr_lt t f hf))
      · exact hw.addr_inj t u f g hf hg heq
  · exact fun g hg => Nat.lt_succ_of_lt (hw.gone_lt g hg)
  · exact hw.gone_stopped
  · intro g hg t f hf
    obtain ⟨-, rfl⟩ | ⟨-, hf⟩ := of_connect hf
    · exact Nat.ne_of_gt (hw.gone_lt g hg)
    · exact hw.gone_ne g hg t f hf
  · exact fun l hl => Nat.lt_succ_of_lt (hw.loop_lt l hl)
  · intro l hl t f hf heq
    obtain ⟨-, rfl⟩ | ⟨-, hf⟩ := of_connect hf
    · exact absurd heq (Nat.ne_of_gt (hw.loop_lt l hl))
    · exact hw.loop_sock l hl t f hf heq
  · intro l hl t f hf heq
    obtain ⟨-, rfl⟩ | ⟨-, hf⟩ := of_connect hf
    · exact absurd heq (Nat.ne_of_gt (hw.loop_lt l hl))
    · exact hw.loop_arg l hl t f hf heq
  · exact fun ptr info hi => Nat.lt_succ_of_lt (hw.info_lt ptr info hi)
  · intro t f ptr hf harg
    obtain ⟨-, rfl⟩ | ⟨-, hf⟩ := of_connect hf
    · cases harg
    · exact hw.record t f ptr hf harg

theorem report (hw : Wired h) (s : SOCKET) (m : UnPacket) : Wired (h.report s m) := by
  rw [Heart.report]
  split
  · split
    · exact hw
    · rename_i ptr hptr
      refine hw.congr rfl rfl rfl rfl (fun p => ?_) fun l hl => ⟨l, hl, rfl, rfl⟩
      rw [Heart.setInfo]
      dsimp only
      by_cases hp : p = ptr
      · subst hp
        rw [Function.update_self, Option.map_map]
        rfl
      · rw [Function.update_of_ne hp]
  · exact hw

theorem startLoop (hw : Wired h) (hs : h.client s = some e) (haddr : e'.addr = e.addr)
    (m : UnPacket) : Wired (h.startLoop s m e') := by
  have hlt := hw.addr_lt s e hs
  have hloops : ∀ l ∈ (h.startLoop s m e').loops,
      l ∈ h.loops ∨ l = { self := e'.addr, sockClient := s } := by
    intro l hl
    exact (List.mem_append.mp hl).imp_right List.mem_singleton.mp
  constructor
  · intro t f hf
    obtain ⟨-, rfl⟩ | ⟨-, hf⟩ := of_startLoop hf
    · exact Nat.lt_succ_of_lt (haddr ▸ hlt)
    · exact Nat.lt_succ_of_lt (hw.addr_lt t f hf)
  · intro t u f g hf hg heq
    obtain ⟨rfl, rfl⟩ | ⟨-, hf₀⟩ := of_startLoop hf
    · obtain ⟨rfl, -⟩ | ⟨-, hg₀⟩ := of_startLoop hg
      · rfl
      · exact hw.addr_inj t u e g hs hg₀ (haddr.symm.trans heq)
    · obtain ⟨rfl, rfl⟩ | ⟨-, hg₀⟩ := of_startLoop hg
      · exact hw.addr_inj t u f e hf₀ hs (heq.trans haddr)
      · exact hw.addr_inj t u f g hf₀ hg₀ heq
  · exact fun g hg => Nat.lt_succ_of_lt (hw.gone_lt g hg)
  · exact hw.gone_stopped
  · intro g hg t f hf
    obtain ⟨-, rfl⟩ | ⟨-, hf⟩ := of_startLoop hf
    · have hne := hw.gone_ne g hg s e hs
      rw [← haddr] at hne
      exact hne
    · exact hw.gone_ne g hg t f hf
  · intro l hl
    obtain hl | rfl := hloops l hl
    · exact Nat.lt_succ_of_lt (hw.loop_lt l hl)
    · exact Nat.lt_succ_of_lt (haddr ▸ hlt)
  · intro l hl t f hf heq
    obtain ⟨rfl, rfl⟩ | ⟨hts, hf⟩ := of_startLoop hf
    · obtain hl | rfl := hloops l hl
      · exact hw.loop_sock l hl t e hs (haddr.symm.trans heq)
      · rfl
    · obtain hl | rfl := hloops l hl
      · exact hw.loop_sock l hl t f hf heq
      · exact absurd (hw.addr_inj t s f e hf hs (heq.trans haddr)) hts
  · intro l hl t f hf heq
    obtain ⟨-, rfl⟩ | ⟨hts, hf⟩ := of_startLoop hf
    · exact Option.some_ne_none _
    · obtain hl | rfl := hloops l hl
      · exact hw.loop_arg l hl t f hf heq
      · exact absurd (hw.addr_inj t s f e hf hs (heq.trans haddr)) hts
  · intro ptr info hi
    rw [Heart.startLoop] at hi ⊢
    dsimp only at hi ⊢
    by_cases hp : ptr = h.nextAddr
    · omega
    · rw [Function.update_of_ne hp] at hi
      exact Nat.lt_succ_of_lt (hw.info_lt ptr info hi)
  · intro t f ptr hf harg
    rw [Heart.startLoop]
    dsimp only
    obtain ⟨rfl, rfl⟩ | ⟨hts, hf⟩ := of_startLoop hf
    · obtain rfl : h.nextAddr = ptr := Option.some.inj harg
      rw [Function.update_self, Function.update_self]
      exact ⟨rfl, _, rfl, rfl⟩
    · obtain ⟨hmap, info, hi, hsock⟩ := hw.record t f ptr hf harg
      have hp : ptr ≠ h.nextAddr := Nat.ne_of_lt (hw.info_lt ptr info hi)
      rw [Function.update_of_ne hts, Function.update_of_ne hp]
      exact ⟨hmap, info, hi, hsock⟩

theorem dismiss (hw : Wired h) (hs : h.client s = some e) (harg : e.m_pTimeFuncArg = some ptr) :
    Wired (h.dismiss s ptr e) := by
  have hgone : ∀ g ∈ (h.dismiss s ptr e).erased, g ∈ h.erased ∨ g = evicted e := by
    intro g hg
    exact (List.mem_append.mp hg).imp_right List.mem_singleton.mp
  have hinfo : ∀ p info, (h.dismiss s ptr e).info p = some info →
      p ≠ ptr ∧ h.info p = some info := by
    intro p info hi
    rw [Heart.dismiss, Heart.setInfo] at hi
    dsimp only at hi
    by_cases hp : p = ptr
    · rw [hp, Function.update_self] at hi
      cases hi
    · rw [Function.update_of_ne hp] at hi
      exact ⟨hp, hi⟩
  constructor
  · intro t f hf
    exact hw.addr_lt t f (of_dismiss hf).1
  · intro t u f g hf hg
    exact hw.addr_inj t u f g (of_dismiss hf).1 (of_dismiss hg).1
  · intro g hg
    obtain hg | rfl := hgone g hg
    · exact hw.gone_lt g hg
    · exact hw.addr_lt s e hs
  · intro g hg
    obtain hg | rfl := hgone g hg
    · exact hw.gone_stopped g hg
    · rfl
  · intro g hg t f hf heq
    obtain ⟨hf, hts⟩ := of_dismiss hf
    obtain hg | rfl := hgone g hg
    · exact hw.gone_ne g hg t f hf heq
    · exact hts (hw.addr_inj t s f e hf hs heq)
  · exact hw.loop_lt
  · intro l hl t f hf
    exact hw.loop_sock l hl t f (of_dismiss hf).1
  · intro l hl t f hf
    exact hw.loop_arg l hl t f (of_dismiss hf).1
  · intro p info hi
    exact hw.info_lt p info (hinfo p info hi).2
  · intro t f p hf hp
    obtain ⟨hf, hts⟩ := of_dismiss hf
    obtain ⟨hmap, info, hi, hsock⟩ := hw.record t f p hf hp
    -- the deleted record is that of another socket
    have hne : p ≠ ptr := by
      rintro rfl
      obtain ⟨-, info', hi', hsock'⟩ := hw.record s e p hs harg
      rw [hi] at hi'
      cases hi'
      exact hts (hsock.symm.trans hsock')
    refine ⟨hmap, info, ?_, hsock⟩
    rw [Heart.dismiss, Heart.setInfo]
    dsimp only
    rw [Function.update_of_ne hne]
    exact hi

theorem stored_of_entity {l : TimerLoop} (hw : Wired h) (he : h.entity l = some e)
    (hpower : e.m_ThreadPower = false) : h.client l.sockClient = some e ∧ e.addr = l.self := by
  have hgone : h.erased.find? (fun e => e.addr = l.self) ≠ some e := by
    intro hfind
    rw [hw.gone_stopped e (List.mem_of_find?_eq_some hfind)] at hpower
    cases hpower
  rw [Heart.entity] at he
  split at he
  · rename_i f hf
    split at he
    · rename_i haddr
      cases he
      exact ⟨hf, haddr⟩
    · exact absurd he hgone
  · exact absurd he hgone

/-- What a callback finds and does: the record is the one of the loop's entity,
which is counted or, at its end, dismissed. -/
theorem tick {j now : Nat} {arg : Option Nat} (hw : Wired h) (hb : h.Enabled (.tick j now arg)) :
    ∃ l e ptr info, h.loops[j]? = some l ∧ l.running = true ∧ h.client l.sockClient = some e ∧
      e.addr = l.self ∧ e.m_ThreadPower = false ∧ h.preTime.getD now + e.m_iDeltaTime < now ∧
      e.m_pTimeFuncArg = some ptr ∧ arg = some ptr ∧ h.keepAliveInfo l.sockClient = some ptr ∧
      h.info ptr = some info ∧ info.clientSocket = l.sockClient ∧
      h.apply (.tick j now arg) = { (if 30 ≤ e.m_iSendMsgCount then h.dismiss l.sockClient ptr e
        else h.setClient l.sockClient (some (counted e))) with preTime := some now } := by
  obtain ⟨l, e, hl, he, hrun, hpower, hdue, rfl⟩ := hb
  obtain ⟨hs, haddr⟩ := hw.stored_of_entity he hpower
  have hsome := hw.loop_arg l (List.mem_of_getElem? hl) l.sockClient e hs haddr
  obtain ⟨ptr, hptr⟩ := Option.ne_none_iff_exists'.mp hsome
  obtain ⟨hmap, info, hi, hsock⟩ := hw.record l.sockClient e ptr hs hptr
  refine ⟨l, e, ptr, info, hl, hrun, hs, haddr, hpower, hdue, hptr, hptr, hmap, hi, hsock, ?_⟩
  rw [Heart.apply, hptr]
  simp only [Heart.callBack, hi, hsock, hs]

theorem apply {b : Beat} (hw : Wired h) (hb : h.Enabled b) : Wired (h.apply b) := by
  cases b with
  | rest => exact hw
  | connect s junk => exact hw.connect hb junk
  | reconnect s =>
    obtain ⟨e, hs⟩ := Option.ne_none_iff_exists'.mp hb
    rw [Heart.apply, hs]
    exact hw.setClient hs rfl rfl
  | keepAlive s m =>
    rw [Heart.apply]
    cases hs : h.client s with
    | none => exact hw
    | some e =>
      have hs' : (h.report s m).client s = some e := by rw [report_client, hs]
      dsimp only
      split
      · exact (hw.report s m).setClient hs' rfl rfl
      · have haddr : (answered e).addr = e.addr := rfl
        exact (hw.report s m).startLoop hs' haddr m
  | look j now => exact hw.congr rfl rfl rfl rfl (fun _ => rfl) fun l hl => ⟨l, hl, rfl, rfl⟩
  | finish j =>
    exact hw.congr rfl rfl rfl rfl (fun _ => rfl) fun l hl => mem_modify hl
  | tick j now arg =>
    obtain ⟨l, e, ptr, info, -, -, hs, -, -, -, hptr, -, -, -, -, happ⟩ := hw.tick hb
    have hkept : Wired (if 30 ≤ e.m_iSendMsgCount then h.dismiss l.sockClient ptr e
        else h.setClient l.sockClient (some (counted e))) := by
      split
      · exact hw.dismiss hs hptr
      · exact hw.setClient hs rfl rfl
    rw [happ]
    exact hkept.congr rfl rfl rfl rfl (fun _ => rfl) fun l hl => ⟨l, hl, rfl, rfl⟩

end Wired

section Runs

variable {DB : Type} {sqlite : Sqlite DB} {db : DB} {tr : List (Process DB × Action)}
  {st : Process DB}

theorem heart_start : heart (start db) = restingHeart := by
  apply Heart.ext
  · funext s
    simp [heart, pulses, start, CCache.GetEntity, restingHeart]
  · rfl
  · funext s
    simp [heart, start, restingHeart]
  · funext ptr
    simp [heart, start, restingHeart]
  · rfl
  · rfl
  · rfl

theorem heart_invariant {I : Heart → Prop} (h0 : I restingHeart)
    (hs : ∀ h b, Wired h → I h → h.Enabled b → I (h.apply b)) (h : ServerRun sqlite db tr st) :
    I (heart st) := by
  have hboth : Wired (heart st) ∧ I (heart st) := by
    refine Run.invariant (I := fun st : Process DB => Wired (heart st) ∧ I (heart st)) ?_ ?_ h
    · rw [heart_start]
      exact ⟨Wired.resting, h0⟩
    · rintro st a st' ⟨hw, hi⟩ ⟨out, hstep⟩
      rw [step_heart hstep]
      exact ⟨hw.apply (beat_enabled st a), hs _ _ hw hi (beat_enabled st a)⟩
  exact hboth.2

theorem wired (h : ServerRun sqlite db tr st) : Wired (heart st) :=
  heart_invariant Wired.resting (fun _ _ hw _ hb => hw.apply hb) h

def felt {ω : Type} (init : ω) (feel : ω → Heart → Beat → ω) (tr : List (Process DB × Action)) : ω :=
  observe init (fun o st a => feel o (heart st) (beat st a)) tr

variable {ω : Type} {init : ω} {feel : ω → Heart → Beat → ω} {I J : ω → Heart → Prop}
  {C : ω → Heart → Beat → Prop}

theorem felt_invariant (h0 : J init restingHeart)
    (hs : ∀ o h b, Wired h → J o h → h.Enabled b → J (feel o h b) (h.apply b))
    (h : ServerRun sqlite db tr st) : J (felt init feel tr) (heart st) := by
  refine Run.always (I := fun tr st => J (felt init feel tr) (heart st)) (C := fun _ _ => True)
    ?_ ?_ h fun _ _ => trivial
  · rw [heart_start]
    exact h0
  · rintro tr st a st' hrun hj - ⟨out, hstep⟩
    rw [step_heart hstep]
    exact hs _ _ _ (wired hrun) hj (beat_enabled st a)

/-- The exact condition for a property of the heart and an observer: `J` needs no
condition, and a beat keeps `I` exactly when it meets `C`. -/
theorem felt_moments_iff (hj0 : J init restingHeart)
    (hj : ∀ o h b, Wired h → J o h → h.Enabled b → J (feel o h b) (h.apply b))
    (h0 : I init restingHeart) (h : ServerRun sqlite db tr st)
    (hs : ∀ pre st a, (pre, st, a) ∈ moments tr → Wired (heart st) →
      J (felt init feel pre) (heart st) → I (felt init feel pre) (heart st) →
      (heart st).Enabled (beat st a) →
      (I (feel (felt init feel pre) (heart st) (beat st a)) ((heart st).apply (beat st a)) ↔
        C (felt init feel pre) (heart st) (beat st a))) :
    (∀ x ∈ points tr st, I (felt init feel x.1) (heart x.2)) ↔
      ∀ x ∈ moments tr, C (felt init feel x.1) (heart x.2.1) (beat x.2.1 x.2.2) := by
  refine Run.moments_iff (I := fun tr st => I (felt init feel tr) (heart st))
    (C := fun pre st a => C (felt init feel pre) (heart st) (beat st a)) ?_ h ?_
  · rw [heart_start]
    exact h0
  · rintro pre st a st' hmem hrun hi ⟨out, hstep⟩
    rw [step_heart hstep]
    exact hs pre st a hmem (wired hrun) (felt_invariant hj0 hj hrun) hi (beat_enabled st a)

theorem felt_always_iff {C : Heart → Beat → Prop} (hj0 : J init restingHeart)
    (hj : ∀ o h b, Wired h → J o h → h.Enabled b → J (feel o h b) (h.apply b))
    (h0 : I init restingHeart)
    (hs : ∀ o h b, Wired h → J o h → I o h → h.Enabled b →
      (I (feel o h b) (h.apply b) ↔ C h b)) (h : ServerRun sqlite db tr st) :
    (∀ x ∈ points tr st, I (felt init feel x.1) (heart x.2)) ↔
      ∀ x ∈ tr, C (heart x.1) (beat x.1 x.2) :=
  (felt_moments_iff (C := fun _ h b => C h b) hj0 hj h0 h fun _ _ _ _ => hs _ _ _).trans
    (forall_moments (C := fun st a => C (heart st) (beat st a)))

end Runs

def keepAlive (s : SOCKET) (scene : CurScene) : Action :=
  .packet s { curscene? := some .CS_KeepAlive, keepalive? := some { curscene? := some scene } } []

def ticks (j n : Nat) : List Action := (List.range (n + 1)).map fun i => .poll j (2 * i)

end JiraGame.Wiring
