import JiraGame.AccountStore
import JiraGame.Listeners
import JiraGame.RelationalSqlite

namespace JiraGame.AccountReplies

open JiraGame.Scene JiraGame.Command JiraGame.Utilitys JiraGame.DBServer JiraGame.Cache
open JiraGame.HallScene JiraGame.AccountScenes JiraGame.Session JiraGame.Shells
open JiraGame.AccountStatements hiding text
open JiraGame.AccountMap JiraGame.AccountTables JiraGame.AccountStore
open JiraGame.RelationalSqlite JiraGame.Lib.SqlMeaning JiraGame.Lib.Keyed
open JiraGame.Lib.SqlLexer (digits_toDigits toList_toString)

/-- A number as a field of type int holds it. -/
def inInt (n : Int) : Int := max (-2147483648) (min n 2147483647)

def roleEntry (t : Int) (n : String) : PlayerInfo :=
  (({} : PlayerInfo).set_roletype (inInt t)).set_name n

/-- The list has an entry for each role of the account, once. -/
def Lists (a : Account) (entry : Int → String → PlayerInfo) (l : List PlayerInfo) : Prop :=
  ∃ roles : List (Int × String), roles.Nodup ∧ (∀ t n, (t, n) ∈ roles ↔ a.role t n) ∧
    l = roles.map fun x => entry x.1 x.2

/-- The list after a role was created. An account without roles has one entry, made
from a row of NULLs. -/
def ListsCreated (shown : String → String) : Option Account → List PlayerInfo → Prop
  | none, l => l = []
  | some a, l => (∃ t, a.HasType t) ∧ Lists a (fun t n => roleEntry t (shown n)) l ∨
      (∀ t, ¬ a.HasType t) ∧ l = [{}]

/-- The packet that answers a request of the client on `s`. -/
def Says (shown : String → String) (s : SOCKET) : Reply → Outbox → Prop
  | .registered ok, out => out = [(s, registerPacket (if ok then .RT_Success else .RT_Fail))]
  | .refused, out => out = [(s, loginPacket { returntype? := some .Fail })]
  | .loggedIn sid a, out => ∃ returntype l,
      out = [(s, loginPacket { sessionid? := some sid, returntype? := some returntype,
                               playerinfo := l })] ∧
      ((∃ t, a.HasType t) ∧ returntype = .ToSelectRole ∨
        (∀ t, ¬ a.HasType t) ∧ returntype = .ToCreateRole) ∧
      Lists a (fun t n => (roleEntry t (shown n)).set_roleid (inInt a.id)) l
  | .notCreated, out => out = [(s, createPacket { returntype? := some .CRT_Fail })]
  | .created a?, out => ∃ l, out =
      [(s, createPacket { returntype? := some .CRT_Success, playerinfo := l })] ∧
        ListsCreated shown a? l
  | .selected id?, out => out = [(s, selectPacket { userid? := id? })]
  | .silent, out => out = []

def holds (o : SOCKET → Option String) (s : SOCKET) : Reply → SOCKET → Option String
  | .loggedIn sid _ => Function.update o s (some sid)
  | _ => o

theorem check_iff {c : CCache} {s : SOCKET} {sid : String} :
    c.CheckSessionValid s sid = true ↔ sessions c s = some sid := by
  rw [CCache.CheckSessionValid, sessions]
  cases c.GetEntity s with
  | none => simp
  | some e => simp

theorem says_own {shown : String → String} {s : SOCKET} {rep : Reply} {out : Outbox}
    (h : Says shown s rep out) :
    ∀ p ∈ out, p.1 = s := by
  cases rep with
  | loggedIn sid a =>
    obtain ⟨returntype, l, rfl, -⟩ := h
    simp
  | created a? =>
    obtain ⟨l, rfl, -⟩ := h
    simp
  | silent =>
    rw [show out = [] from h]
    simp
  | registered ok | refused | notCreated | selected id? =>
    rw [show out = [_] from h]
    simp

theorem holds_isSome {o : SOCKET → Option String} {s : SOCKET} (h : (o s).isSome = true)
    (rep : Reply) : (holds o s rep s).isSome = true := by
  cases rep with
  | loggedIn sid a =>
    rw [holds, Function.update_self]
    rfl
  | registered | refused | notCreated | created | selected | silent => exact h

section Numbers

theorem isSpace_digit {c : Char} (h : c.isDigit = true) : isSpace c = false := by
  rw [Char.isDigit, Bool.and_eq_true, decide_eq_true_eq, decide_eq_true_eq] at h
  have h0 : 48 ≤ c.val.toNat := UInt32.le_iff_toNat_le.mp h.1
  have hblank : ¬ c = ' ' := by
    rintro rfl
    exact absurd h0 (by decide)
  have hline : ¬ c ≤ '\r' := fun hle => by
    have h13 : c.val.toNat ≤ 13 := UInt32.le_iff_toNat_le.mp hle
    omega
  simp [isSpace, hblank, hline]

theorem digits_eq {cs : List Char} (h : ∀ c ∈ cs, c.isDigit = true) (acc : Nat) :
    digits acc cs = Nat.ofDigitChars 10 cs acc := by
  induction cs generalizing acc with
  | nil => rfl
  | cons c cs ih =>
    obtain ⟨hc, hcs⟩ := List.forall_mem_cons.mp h
    rw [digits, if_pos hc, ih hcs, Nat.ofDigitChars_cons, Nat.mul_comm]

theorem digits_decimal (k : Nat) : digits 0 (Nat.toDigits 10 k) = k := by
  rw [digits_eq (digits_toDigits k), Nat.ofDigitChars_ten_toDigits]

theorem string2Int_int2String (n : Int) : string2Int (int2String n) = inInt n := by
  rw [string2Int, int2String, toList_toString]
  cases n with
  | ofNat k =>
    dsimp only
    cases hd : Nat.toDigits 10 k with
    | nil => exact absurd hd Nat.toDigits_ne_nil
    | cons c cs =>
      have hc : c.isDigit = true := digits_toDigits k c (by rw [hd]; exact List.mem_cons_self)
      rw [List.dropWhile_cons_of_neg (by simp [isSpace_digit hc])]
      have hdec := digits_decimal k
      rw [hd] at hdec
      have hle : inInt (Int.ofNat k) = min (k : Int) 2147483647 := by
        rw [inInt, Int.ofNat_eq_natCast]
        omega
      rw [hle]
      -- the first character is no sign
      split
      · rename_i heq
        rw [(List.cons.inj heq).1] at hc
        exact absurd hc (by decide)
      · rename_i heq
        rw [(List.cons.inj heq).1] at hc
        exact absurd hc (by decide)
      · rw [hdec]
  | negSucc k =>
    dsimp only
    rw [List.dropWhile_cons_of_neg (by decide)]
    change max (-(digits 0 (Nat.toDigits 10 (k + 1)) : Int)) (-2147483648) = _
    rw [digits_decimal, inInt, Int.negSucc_eq]
    omega

end Numbers

section Lists

variable {σ : Store} {r : UserRow}

theorem mem_rolesOf (hs : Sound σ) (hr : r ∈ σ.users) {p : PlayerRow} :
    p ∈ σ.rolesOf r ↔ p ∈ σ.players ∧ p.roleID = r.userID := by
  rw [Store.rolesOf, List.mem_filter, hs.linked r hr]
  simp [eq_comm]

theorem mem_typedRows {P : UserRow → Bool} {f : UserRow → PlayerRow → List Value} {t : Int}
    {cells : List Value} :
    cells ∈ ((σ.users.filter P).flatMap fun r =>
      ((σ.rolesOf r).filter fun p => p.roleType = t).map (f r)) ↔
        ∃ r ∈ σ.users, P r = true ∧ ∃ p ∈ σ.rolesOf r, p.roleType = t ∧ f r p = cells := by
  simp [and_assoc]

theorem owns_type_iff (hs : Sound σ) (hr : r ∈ σ.users) {t : Int} :
    (accountOf σ r).HasType t ↔ ∃ p ∈ σ.rolesOf r, p.roleType = t := by
  rw [hasType_iff]
  refine exists_congr fun p => ?_
  rw [mem_rolesOf hs hr, and_assoc]

theorem hasType_accounts (hs : Sound σ) {u : String} {t : Int} : (accounts σ).HasType u t ↔
    ∃ r ∈ σ.users, r.name = u ∧ ∃ p ∈ σ.rolesOf r, p.roleType = t := by
  refine ⟨?_, ?_⟩
  · rintro ⟨a, ha, ht⟩
    obtain ⟨r, hr, hname, rfl⟩ := (account_eq_some hs).mp ha
    exact ⟨r, hr, hname, (owns_type_iff hs hr).mp ht⟩
  · rintro ⟨r, hr, hname, hown⟩
    exact ⟨_, (account_eq_some hs).mpr ⟨r, hr, hname, rfl⟩, (owns_type_iff hs hr).mpr hown⟩

theorem not_hasType_of_rows (hs : Sound σ) (hr : r ∈ σ.users) {P : UserRow → Bool}
    {f : UserRow → PlayerRow → List Value} {t : Int}
    (hnone : ((σ.users.filter P).flatMap fun r =>
      ((σ.rolesOf r).filter fun p => p.roleType = t).map (f r)) = []) (hP : P r = true) :
    ¬ (accountOf σ r).HasType t := by
  intro hown
  obtain ⟨p, hp, ht⟩ := (owns_type_iff hs hr).mp hown
  have hmem := (mem_typedRows (f := f)).mpr ⟨r, hr, hP, p, hp, ht, rfl⟩
  rw [hnone] at hmem
  cases hmem

theorem lists_of_perm (hs : Sound σ) (hr : r ∈ σ.users) {qs : List PlayerRow}
    (hperm : qs.Perm (σ.rolesOf r)) (entry : Int → String → PlayerInfo) :
    Lists (accountOf σ r) entry (qs.map fun p => entry p.roleType p.name) := by
  have hmem : ∀ p, p ∈ qs ↔ p ∈ σ.players ∧ p.roleID = r.userID := fun p => by
    rw [hperm.mem_iff, mem_rolesOf hs hr]
  refine ⟨qs.map fun p => (p.roleType, p.name), ?_, ?_, ?_⟩
  · have hnodup : (σ.rolesOf r).Nodup := (List.Nodup.of_map _ hs.roleNames).filter _
    refine (hperm.nodup_iff.mpr hnodup).map_on fun p hp q hq he => ?_
    have hname : p.name = q.name := (Prod.mk.inj he).2
    exact List.inj_on_of_nodup_map hs.roleNames ((hmem p).mp hp).1 ((hmem q).mp hq).1 hname
  · intro t n
    rw [role_iff, List.mem_map]
    refine exists_congr fun p => ?_
    rw [hmem, Prod.mk.injEq, and_assoc]
  · rw [List.map_map]
    rfl

theorem Lists.ne_nil_iff {a : Account} {entry : Int → String → PlayerInfo} {l : List PlayerInfo}
    (h : Lists a entry l) : l ≠ [] ↔ ∃ t, a.HasType t := by
  obtain ⟨roles, -, hmem, rfl⟩ := h
  rw [Ne, List.map_eq_nil_iff]
  refine ⟨fun hne => ?_, ?_⟩
  · obtain ⟨⟨t, n⟩, hx⟩ := List.exists_mem_of_ne_nil roles hne
    exact ⟨t, n, (hmem t n).mp hx⟩
  · rintro ⟨t, n, hn⟩
    exact List.ne_nil_of_mem ((hmem t n).mpr hn)

end Lists

section Outcomes

variable {DB : Type}

/-- What a handler did is what the account map answers. -/
structure Outcome (view : DB → Tables) (σ : Store) (c : CCache) (s : SOCKET) (req : Request)
    (x : DB × CCache × Outbox) : Prop where
  stored : ∃ σ', view x.1 = σ'.tables ∧ Sound σ' ∧
    accounts σ' = ((accounts σ).answer cString (sessions c s) req).1
  held : sessions x.2.1 = holds (sessions c) s ((accounts σ).answer cString (sessions c s) req).2
  reply : Says cString s ((accounts σ).answer cString (sessions c s) req).2 x.2.2

variable {sqlite : Sqlite DB} {view : DB → Tables} {db : DB} {σ : Store} {c : CCache} {s : SOCKET}

theorem Outcome.of_answer {req : Request} {x : DB × CCache × Outbox} {w : Accounts} {rep : Reply}
    {τ : Store} (h : (accounts σ).answer cString (sessions c s) req = (w, rep)) (hv : view x.1 = τ.tables)
    (hτ : Sound τ) (hw : accounts τ = w) (hheld : sessions x.2.1 = holds (sessions c) s rep)
    (hshown : Says cString s rep x.2.2) : Outcome view σ c s req x := by
  constructor <;> rw [h]
  · exact ⟨τ, hv, hτ, hw⟩
  · exact hheld
  · exact hshown

theorem not_of_no_rows {α β : Type} {l : List α} {f : α → β} {P : α → Prop} [DecidablePred P]
    (h : (l.filter P).map f = []) : ∀ a ∈ l, ¬P a := by
  intro a ha hP
  have hmem : a ∈ l.filter P := List.mem_filter.mpr ⟨ha, decide_eq_true hP⟩
  rw [List.map_eq_nil_iff.mp h] at hmem
  cases hmem

def digitsOf (rand : List Nat) : Option String :=
  if 6 ≤ rand.length then some (GenrateRandomID (rand.take 6)) else none

theorem sessionOf_eq (u : String) (rand : List Nat) :
    sessionOf u rand = (digitsOf rand).map fun digits => u ++ "_" ++ digits := by
  unfold sessionOf
  split
  · simp [digitsOf]
  · rename_i hshort
    have hlt : ¬ 6 ≤ rand.length := by
      intro hle
      match rand, hle with
      | r₁ :: r₂ :: r₃ :: r₄ :: r₅ :: r₆ :: rest, _ => exact hshort _ _ _ _ _ _ _ rfl
    rw [digitsOf, if_neg hlt]
    rfl

theorem names_digitsOf {u digits : String} {rand : List Nat} (h : digitsOf rand = some digits) :
    Names u (u ++ "_" ++ digits) := by
  refine ⟨digits, rfl, ?_⟩
  rw [digitsOf] at h
  split at h
  · cases h
    exact underscore_not_mem _
  · cases h

theorem users?_of_mem {r : UserRow} (hr : r ∈ σ.users) : ∃ t, σ.users? = some t := by
  rw [Store.users] at hr
  cases h : σ.users? with
  | none => simp [h] at hr
  | some t => exact ⟨t, rfl⟩

theorem loginRows (hs : Sound σ) {r : UserRow} (hr : r ∈ σ.users) :
    ((σ.users.filter fun x => x.name = r.name).flatMap fun x =>
      (σ.rolesOf x).map fun p => [Value.int p.roleType, text p.name, .int x.userID]) =
      (σ.rolesOf r).map fun p => [Value.int p.roleType, text p.name, .int r.userID] := by
  rw [filter_eq hs.names hr, List.flatMap_singleton]

theorem create_listedRole {row : Row} {t : Int} {n : String}
    (h : ShowsRow row [.int t, text n]) : listedRole false row = roleEntry t (cString n) := by
  have htype := h.text 0 _ rfl
  have hname := h.text 1 _ rfl
  simp only [cellText_int, cellText_text] at htype hname
  simp only [listedRole, htype, hname]
  rw [← int2String, string2Int_int2String, roleEntry]

theorem login_listedRole {row : Row} {t id : Int} {n : String}
    (h : ShowsRow row [.int t, text n, .int id]) : listedRole true row =
      (roleEntry t (cString n)).set_roleid (inInt id) := by
  have htype := h.text 0 _ rfl
  have hname := h.text 1 _ rfl
  have hid := h.text 2 _ rfl
  simp only [cellText_int, cellText_text] at htype hname hid
  simp only [listedRole, htype, hname, hid]
  rw [← int2String, ← int2String, string2Int_int2String, string2Int_int2String, roleEntry]

/-- The return type of a login says whether there is a role. -/
theorem returntype_cases {a : Account} {entry : Int → String → PlayerInfo} {l : List PlayerInfo}
    {rows : List Row} (h : Lists a entry l) (hrows : rows.length = l.length) :
    (∃ t, a.HasType t) ∧ (if rows.isEmpty then LoginReturnType.ToCreateRole else .ToSelectRole) =
        .ToSelectRole ∨
      (∀ t, ¬ a.HasType t) ∧
        (if rows.isEmpty then LoginReturnType.ToCreateRole else .ToSelectRole) = .ToCreateRole := by
  by_cases hl : l = []
  · right
    have hnil : rows = [] := List.length_eq_zero_iff.mp (by rw [hrows, hl, List.length_nil])
    rw [hnil]
    exact ⟨fun t ht => h.ne_nil_iff.mpr ⟨t, ht⟩ hl, rfl⟩
  · left
    refine ⟨h.ne_nil_iff.mp hl, if_neg ?_⟩
    rw [List.isEmpty_iff]
    rintro rfl
    exact hl (List.length_eq_zero_iff.mp hrows.symm)

/-- The reply to a refused creation; the tables stand for the accounts they did. -/
theorem outcome_notCreated {db' : DB} {τ : Store} {sid n : String} {t : Int}
    (hv : view db' = τ.tables) (hτ : Sound τ) (hsame : accounts τ = accounts σ)
    (h : (accounts σ).answer cString (sessions c s) (.createRole sid t n) = (accounts σ, .notCreated)) :
    ∃ x, Except.ok (db', c, [(s, createPacket { returntype? := some .CRT_Fail })]) =
        (Except.ok x : Except Fault (DB × CCache × Outbox)) ∧
      Outcome view σ c s (.createRole sid t n) x :=
  ⟨_, rfl, .of_answer h hv hτ hsame rfl rfl⟩

theorem lists_roles (hrel : Relational sqlite view) (hs : Sound σ) {table : UserTable}
    {ps : List PlayerRow} (hu : σ.users? = some table) (hpl : σ.players? = some ps)
    (hv : view db = σ.tables) (u : String) : view (sqlite.exec db (Query.roles u).sql).1 = σ.tables ∧
      ListsCreated cString ((accounts σ).account u)
        ((rowsOf (sqlite.exec db (Query.roles u).sql).2).map (listedRole false)) := by
  have hlist := exec_reads hrel hv (reads_roles σ hu hpl u)
  refine ⟨hlist.1, ?_⟩
  generalize (sqlite.exec db (Query.roles u).sql).2 = res at hlist
  obtain ⟨-, hlist⟩ := hlist
  cases ha : (accounts σ).account u with
  | none =>
    have hno : (σ.users.filter fun r => r.name = u) = [] := by
      simpa using account_eq_none.mp ha
    rw [hno, List.flatMap_nil] at hlist
    obtain ⟨cells, hperm, hrows⟩ := hlist
    rw [hperm.eq_nil, List.forall₂_nil_right_iff] at hrows
    rw [hrows]
    rfl
  | some a =>
    obtain ⟨r, hr, rfl, rfl⟩ := (account_eq_some hs).mp ha
    rw [filter_eq hs.names hr, List.flatMap_singleton] at hlist
    by_cases hroles : σ.rolesOf r = []
    · right
      rw [hroles] at hlist
      obtain ⟨cells, hperm, hrows⟩ := hlist
      rw [List.perm_singleton.mp hperm] at hrows
      obtain ⟨row, rest, hrow, hrest, heq⟩ := List.forall₂_cons_right_iff.mp hrows
      rw [List.forall₂_nil_right_iff.mp hrest] at heq
      refine ⟨fun t ht => ?_, ?_⟩
      · obtain ⟨p, hp, -⟩ := (owns_type_iff hs hr).mp ht
        rw [hroles] at hp
        cases hp
      · have htype := hrow.text 0 _ rfl
        have hname := hrow.text 1 _ rfl
        rw [heq]
        simp [listedRole, htype, hname, cellText]
    · left
      have hrows : listedRows (σ.rolesOf r) =
          (σ.rolesOf r).map fun p => [Value.int p.roleType, text p.name] := by
        cases h : σ.rolesOf r with
        | nil => exact absurd h hroles
        | cons p ps => rfl
      rw [hrows] at hlist
      obtain ⟨qs, hperm, hentries⟩ := exists_perm_map hlist fun row p h => create_listedRole h
      rw [hentries]
      refine ⟨?_, lists_of_perm hs hr hperm fun t n => roleEntry t (cString n)⟩
      obtain ⟨p, hp⟩ := List.exists_mem_of_ne_nil _ hroles
      exact ⟨p.roleType, (owns_type_iff hs hr).mpr ⟨p, hp, rfl⟩⟩

section Login

variable (hrel : Relational sqlite view) (hv : view db = σ.tables) (hs : Sound σ)
include hrel hv hs

theorem LoginLogic_outcome {e : CClientEntity} (he : c.GetEntity s = some e) (req : LoginRequest)
    {rand : List Nat} {digits : String} (hd : digitsOf rand = some digits) :
    ∃ x, LoginLogic sqlite s req rand db c = .ok x ∧
      Outcome view σ c s (.login req.username req.password digits) x := by
  have hx := exec_reads hrel hv (reads_account σ req.username req.password)
  rw [LoginLogic_eq]
  generalize req.username = u at hx ⊢
  generalize req.password = p at hx ⊢
  dsimp only
  obtain ⟨hfirst, hnone⟩ | ⟨row, cells, hfirst, hcells, -⟩ := firstRow_cases hx.2
  · have hrefused : (accounts σ).answer cString (sessions c s) (.login u p digits) =
        (accounts σ, .refused) := by
      rw [Accounts.answer]
      cases ha : (accounts σ).account u with
      | none => rfl
      | some a =>
        obtain ⟨r, hr, hname, rfl⟩ := (account_eq_some hs).mp ha
        have hpass : (accountOf σ r).password ≠ p := by
          intro hp
          have hrow : r.password = p := hp
          have hmem : r ∈ σ.users.filter fun r => r.name = u && r.password = p :=
            List.mem_filter.mpr ⟨hr, by simp [hname, hrow]⟩
          rw [List.map_eq_nil_iff.mp hnone] at hmem
          cases hmem
        exact if_neg hpass
    simp only [hfirst]
    exact ⟨_, rfl, .of_answer hrefused hx.1 hs rfl rfl rfl⟩
  · obtain ⟨r, hmem, -⟩ := List.mem_map.mp hcells
    obtain ⟨hr, hcond⟩ := List.mem_filter.mp hmem
    obtain ⟨rfl, rfl⟩ : r.name = u ∧ r.password = p := by simpa using hcond
    have hnames := names_digitsOf (u := r.name) hd
    have hsid : sessionOf r.name rand = some (r.name ++ "_" ++ digits) := by
      rw [sessionOf_eq, hd]
      rfl
    have hdone : (accounts σ).answer cString (sessions c s) (.login r.name r.password digits) =
        ((accounts σ).put r.name { accountOf σ r with session := some (r.name ++ "_" ++ digits) },
          .loggedIn (r.name ++ "_" ++ digits)
            { accountOf σ r with session := some (r.name ++ "_" ++ digits) }) := by
      rw [Accounts.answer, (account_eq_some hs).mpr ⟨r, hr, rfl, rfl⟩]
      exact if_pos rfl
    generalize r.name ++ "_" ++ digits = sid at hnames hsid hdone
    obtain ⟨t, ht⟩ := users?_of_mem hr
    have hy := exec_writes hrel hx.1 (writes_setSession σ ht r.name sid)
    have hs₁ := sound_setSession hs hnames
    have hr₁ : { r with session_id := some sid } ∈ (σ.setSession r.name sid).users := by
      rw [users_setSession]
      exact mem_edit_iff.mpr (.inl ⟨r, hr, rfl, rfl⟩)
    have hz := exec_reads hrel hy (reads_loginRoles _ r.name)
    have hrows := loginRows hs₁ hr₁
    dsimp only at hrows
    rw [hrows] at hz
    obtain ⟨qs, hperm, hlist⟩ := exists_perm_map hz.2 fun row p h => login_listedRole h
    have hlists := lists_of_perm hs₁ hr₁ hperm fun t n =>
      (roleEntry t (cString n)).set_roleid (inInt r.userID)
    rw [← hlist] at hlists
    have hheld := sessions_update (o := some { e with SessionID := sid }) (shells_writeEntity c s _)
    simp only [hfirst, hsid, he]
    refine ⟨_, rfl, .of_answer hdone hz.1 hs₁ (accounts_setSession hs hr) hheld ?_⟩
    exact ⟨_, _, rfl, returntype_cases hlists (by rw [List.length_map]; rfl), hlists⟩

omit hs in
/-- The rows after a registration and its reply, by whether the name is known.
The update that links the user is the last statement in both cases. -/
theorem RegisterLogic_rows (req : RegisterRequest) :
    ∃ x, RegisterLogic sqlite s req db c = .ok x ∧ x.2.1 = c ∧
      (∃ db', x.1 = (sqlite.exec db' (Query.link req.username).sql).1) ∧
      ((∀ r ∈ σ.users, r.name ≠ req.username) ∧
          view x.1 = ((σ.createUsers.addUser req.username req.password).link req.username).tables ∧
          x.2.2 = [(s, registerPacket .RT_Success)] ∨
        (∃ r ∈ σ.users, r.name = req.username) ∧
          view x.1 = (σ.createUsers.link req.username).tables ∧
          x.2.2 = [(s, registerPacket .RT_Fail)]) := by
  have hw := exec_writes hrel hv (writes_createUsers σ)
  rw [RegisterLogic_eq]
  generalize req.username = u
  generalize req.password = p
  have hselect := execute_username σ.createUsers rfl u
  have hmeaning := hselect
  rw [← meaning_sql, ← hw] at hmeaning
  obtain ⟨hx, res, hres, hshows⟩ := hrel.answers _ _ _ _ hmeaning
  rw [hw] at hx
  have hshown : ShowsRows (some res) ((σ.users.filter fun r => r.name = u).map UserRow.cells) :=
    hshows.rows
  dsimp only
  obtain ⟨hfirst, hnone⟩ | ⟨row, cells, hfirst, hcells, -⟩ := firstRow_cases hshown
  · have hnew : ∀ r ∈ σ.users, r.name ≠ u := not_of_no_rows hnone
    have hinsert := execute_insertUser σ.createUsers rfl u p
    have hfree : ¬∃ r ∈ σ.createUsers.users, r.name = u := by
      rintro ⟨r, hr, hname⟩
      exact hnew r hr hname
    rw [if_neg hfree] at hinsert
    have hy := exec_answer hrel hx hinsert
    have hz := exec_writes hrel hy.1 (writes_link (σ.createUsers.addUser u p) rfl u)
    simp only [hres, hfirst, Option.isSome_some, Option.isNone_none, Bool.and_self, if_true]
    refine ⟨_, rfl, rfl, ⟨_, rfl⟩, .inl ⟨hnew, hz, ?_⟩⟩
    rw [hy.2]
    rfl
  · obtain ⟨r, hmem, -⟩ := List.mem_map.mp hcells
    obtain ⟨hr, hname⟩ := List.mem_filter.mp hmem
    have hz := exec_writes hrel hx (writes_link σ.createUsers rfl u)
    simp only [hres, hfirst, Option.isNone_some, Bool.and_false, Bool.false_eq_true, if_false]
    exact ⟨_, rfl, rfl, ⟨_, rfl⟩, .inr ⟨⟨r, hr, by simpa using hname⟩, hz, rfl⟩⟩

theorem RegisterLogic_outcome (req : RegisterRequest) :
    ∃ x, RegisterLogic sqlite s req db c = .ok x ∧
      Outcome view σ c s (.register req.username req.password) x := by
  obtain ⟨x, hx, hcache, -, hrows⟩ := RegisterLogic_rows hrel hv req
  refine ⟨x, hx, ?_⟩
  generalize req.username = u at hrows ⊢
  generalize req.password = p at hrows ⊢
  have hheld : sessions x.2.1 = sessions c := by rw [hcache]
  obtain ⟨hnew, hview, hout⟩ | ⟨⟨r, hr, hname⟩, hview, hout⟩ := hrows
  · have hregistered : (accounts σ).answer cString (sessions c s) (.register u p) =
        ({ count := σ.seq + 1,
           account := Function.update (accounts σ).account u
            (some { id := σ.seq + 1, password := p }) }, .registered true) := by
      rw [Accounts.answer, account_eq_none.mpr hnew]
      rfl
    have hreg : Registers σ _ u p := registers_link hnew
    exact .of_answer hregistered hview (hreg.sound hs hnew) (hreg.accounts hs hnew) hheld hout
  · have hknown : (accounts σ).answer cString (sessions c s) (.register u p) =
        (accounts σ, .registered false) := by
      rw [Accounts.answer, (account_eq_some hs).mpr ⟨r, hr, hname, rfl⟩]
    exact .of_answer hknown hview (hs.congr (users_link hs) rfl rfl)
      (accounts_congr (users_link hs) rfl rfl) hheld hout

theorem CreateLogic_outcome (req : CreateRoleRequest) :
    ∃ x, CreateLogic sqlite s req db c = .ok x ∧
      Outcome view σ c s
        (.createRole req.sessionid req.playerinfo.roletype req.playerinfo.name) x := by
  rw [CreateLogic_eq]
  generalize req.sessionid = sid
  generalize req.playerinfo.roletype = t
  generalize req.playerinfo.name = n
  dsimp only
  have hs₁ : Sound σ.createPlayers := hs.congr rfl rfl rfl
  have hsame : accounts σ.createPlayers = accounts σ := accounts_congr rfl rfl rfl
  by_cases hheld : sessions c s = some sid
  · have hanswer : (accounts σ).answer cString (sessions c s) (.createRole sid t n) = _ :=
      if_pos hheld
    rw [if_pos (check_iff.mpr hheld)]
    have hw := exec_writes hrel hv (writes_createPlayers σ)
    have hx := exec_reads hrel hw (reads_session σ.createPlayers sid)
    obtain ⟨hfirst, hnone⟩ | ⟨row, cells, hfirst, hcells, hrow⟩ := firstRow_cases hx.2
    · have hno : ∀ r ∈ σ.users, r.session_id ≠ some sid := not_of_no_rows hnone
      rw [owner_of_no_row hs hno] at hanswer
      simp only [hfirst]
      exact outcome_notCreated hx.1 hs₁ hsame hanswer
    · obtain ⟨r, hmem, rfl⟩ := List.mem_map.mp hcells
      obtain ⟨hr, hsid⟩ := List.mem_filter.mp hmem
      have hname := hrow.text 1 _ rfl
      have hid : row.column_int 0 = r.userID := hrow.int 0 _ (by rw [hs₁.linked r hr]; rfl)
      rw [cellText_text] at hname
      rw [owner_of_row hs hr (of_decide_eq_true hsid)] at hanswer
      dsimp only at hanswer
      simp only [hfirst]
      by_cases hn : n = ""
      · rw [if_pos hn]
        exact outcome_notCreated hx.1 hs₁ hsame (hanswer.trans (if_neg fun h => h.1 hn))
      · rw [if_neg hn]
        simp only [hname]
        have hy := exec_reads hrel hx.1 (reads_owned σ.createPlayers t (cString r.name))
        obtain ⟨hfirst', hfree⟩ | ⟨row', cells', hfirst', hcells', -⟩ := firstRow_cases hy.2
        · have htype : ¬ (accounts σ).HasType (cString r.name) t := by
            rw [hasType_accounts hs]
            rintro ⟨x, hx, hxname, hown⟩
            exact not_hasType_of_rows hs hx hfree (decide_eq_true hxname)
              ((owns_type_iff hs hx).mpr hown)
          simp only [hfirst', hid]
          have hinsert := execute_insertRole σ.createPlayers rfl r.userID t n
          by_cases hused : ∃ p ∈ σ.createPlayers.players, p.name = n
          · rw [if_pos hused] at hinsert
            have hz := exec_answer hrel hy.1 hinsert
            rw [hz.2, if_neg Bool.false_ne_true]
            refine outcome_notCreated hz.1 hs₁ hsame (hanswer.trans (if_neg fun h => ?_))
            obtain ⟨p, hp, hname⟩ := hused
            exact (unused_iff hs).mp h.2.2 p hp hname
          · rw [if_neg hused] at hinsert
            have hz := exec_answer hrel hy.1 hinsert
            rw [hz.2, if_pos rfl]
            have hfresh : ∀ p ∈ σ.players, p.name ≠ n := fun p hp hname => hused ⟨p, hp, hname⟩
            have hcreated := hanswer.trans (if_pos ⟨hn, htype, (unused_iff hs).mpr hfresh⟩)
            have hs₂ := sound_addRole (t := t) hs hr hfresh
            obtain ⟨table, htable⟩ := users?_of_mem hr
            obtain ⟨hlist, hlists⟩ := lists_roles hrel hs₂ htable rfl hz.1 (cString r.name)
            rw [accounts_addRole hs hr] at hlists
            exact ⟨_, rfl, .of_answer hcreated hlist hs₂ (accounts_addRole hs hr) rfl
              ⟨_, rfl, hlists⟩⟩
        · obtain ⟨x, hx', hname', p, hp, ht, -⟩ := mem_typedRows.mp hcells'
          simp only [hfirst']
          refine outcome_notCreated hy.1 hs₁ hsame (hanswer.trans (if_neg fun h => h.2.1 ?_))
          exact (hasType_accounts hs).mpr ⟨x, hx', of_decide_eq_true hname', p, hp, ht⟩
  · rw [if_neg fun h => hheld (check_iff.mp h)]
    exact outcome_notCreated hv hs rfl (if_neg hheld)

theorem role_rows (sid : String) (t : Int) :
    (firstRow (sqlite.exec db (Query.role sid t).sql).2 = none ∧
      ∀ r ∈ σ.users, r.session_id = some sid → ¬ (accountOf σ r).HasType t) ∨
    ∃ row r p, firstRow (sqlite.exec db (Query.role sid t).sql).2 = some row ∧ r ∈ σ.users ∧
      r.session_id = some sid ∧ p ∈ σ.rolesOf r ∧ p.roleType = t ∧ row.column_int 0 = r.userID ∧
      row.column_text 1 = some (cString p.name) := by
  have hx := exec_reads hrel hv (reads_role σ sid t)
  obtain ⟨hfirst, hnone⟩ | ⟨row, cells, hfirst, hcells, hrow⟩ := firstRow_cases hx.2
  · exact .inl ⟨hfirst, fun r hr hsid => not_hasType_of_rows hs hr hnone (decide_eq_true hsid)⟩
  · obtain ⟨r, hr, hsid, p, hp, ht, rfl⟩ := mem_typedRows.mp hcells
    have hname := hrow.text 1 _ rfl
    rw [cellText_text] at hname
    exact .inr ⟨row, r, p, hfirst, hr, of_decide_eq_true hsid, hp, ht, hrow.int 0 _ rfl, hname⟩

theorem SelectLogic_outcome (req : SelectRoleRequest) :
    ∃ x, SelectLogic sqlite s req db c = .ok x ∧
      Outcome view σ c s (.selectRole req.sessionid req.roletype) x := by
  rw [SelectLogic_eq]
  generalize req.sessionid = sid
  generalize req.roletype = t
  by_cases hheld : sessions c s = some sid
  · have hview := (exec_reads hrel hv (reads_role σ sid t)).1
    rw [if_pos (check_iff.mpr hheld)]
    dsimp only
    obtain ⟨hfirst, hnone⟩ | ⟨row, r, p, hfirst, hr, hsid, hp, ht, hid, hname⟩ :=
      role_rows hrel hv hs sid t
    · have hrefused : (accounts σ).answer cString (sessions c s) (.selectRole sid t) =
          (accounts σ, .selected none) := by
        rw [Accounts.answer, if_pos hheld]
        by_cases hex : ∃ r ∈ σ.users, r.session_id = some sid
        · obtain ⟨r, hr, hsid⟩ := hex
          rw [owner_of_row hs hr hsid]
          dsimp only
          rw [if_neg (hnone r hr hsid)]
        · push Not at hex
          rw [owner_of_no_row hs hex]
      simp only [hfirst]
      exact ⟨_, rfl,
        .of_answer hrefused hview hs rfl (sessions_congr (shells_writeRoleInfo c s _)) rfl⟩
    · have hrole : (accountOf σ r).HasType t := (owns_type_iff hs hr).mpr ⟨p, hp, ht⟩
      have hselected : (accounts σ).answer cString (sessions c s) (.selectRole sid t) =
          (accounts σ, .selected (some r.userID)) := by
        rw [Accounts.answer, if_pos hheld, owner_of_row hs hr hsid]
        dsimp only
        rw [if_pos hrole]
        rfl
      simp only [hfirst, hname, hid]
      exact ⟨_, rfl,
        .of_answer hselected hview hs rfl (sessions_congr (shells_writeRoleInfo c s _)) rfl⟩
  · have hsilent : (accounts σ).answer cString (sessions c s) (.selectRole sid t) =
        (accounts σ, .silent) := if_neg hheld
    rw [if_neg fun h => hheld (check_iff.mp h)]
    exact ⟨_, rfl, .of_answer hsilent hv hs rfl rfl rfl⟩

end Login

end Outcomes

end JiraGame.AccountReplies
