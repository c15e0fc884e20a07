import QuackOauth.Session.Store

/-!
# Who is evicted by a store

A store into a full map evicts one session, and this may be the one just stored: the
scan prefers it if its principal expires first.  The module says exactly when.
-/

namespace QuackOauth
namespace Session

open Lib Policy

variable {order : IterationOrder String SessionPrincipal}
variable {sessions : UnorderedMap String SessionPrincipal}
variable {sid : String} {principal : Principal} {nowS : Int}

/-! ## The order of two sessions -/

theorem precedes_iff {it victim : SessionPrincipal} :
    precedes it victim = true ↔
      (0 < it.principal.exp ∧ victim.principal.exp ≤ 0) ∨
      (0 < it.principal.exp ∧ it.principal.exp < victim.principal.exp) ∨
      (it.principal.exp = victim.principal.exp ∧ it.updatedAtS < victim.updatedAtS) := by
  simp only [precedes, Bool.or_eq_true, Bool.and_eq_true, decide_eq_true_eq]
  omega

/-- A session that none precedes is itself before the choice of a scan, unless the scan
met one with its expiry and time, or started from one that cannot be compared. -/
theorem precedes_choice_iff
    {own : SessionPrincipal}
    {first choice : (_ : String) × SessionPrincipal}
    {earlier : List ((_ : String) × SessionPrincipal)}
    (chosen : choice ∈ earlier)
    (minimal : ∀ entry ∈ earlier, precedes entry.2 choice.2 = false)
    (started : choice = first ∨ precedes choice.2 first.2 = true)
    (unpreceded : ∀ entry ∈ earlier, precedes entry.2 own = false) :
    precedes own choice.2 = true ↔
      (∀ entry ∈ earlier, entry.2.principal.exp = own.principal.exp →
        entry.2.updatedAtS ≠ own.updatedAtS) ∧
      (0 < own.principal.exp ∨ first.2.principal.exp = own.principal.exp) := by
  have notBefore := unpreceded choice chosen
  rw [← Bool.not_eq_true, precedes_iff] at notBefore
  constructor
  · intro before
    refine ⟨fun entry member sameExp sameTime => ?_, ?_⟩
    · have beats : precedes entry.2 choice.2 = true := by
        rw [precedes_iff, sameExp, sameTime]
        exact precedes_iff.mp before
      rw [minimal entry member] at beats
      cases beats
    · rw [precedes_iff] at before
      rcases started with rfl | started
      · omega
      · rw [precedes_iff] at started
        omega
  · rintro ⟨untied, comparable⟩
    have untiedChoice := untied choice chosen
    rw [precedes_iff]
    rcases started with rfl | started
    · omega
    · rw [precedes_iff] at started
      omega

/-- Whether one visited session goes before another. -/
def goesFirst (it victim : (_ : String) × SessionPrincipal) : Bool :=
  precedes it.2 victim.2

theorem goesFirst_trans
    {first second third : (_ : String) × SessionPrincipal}
    (before : goesFirst first second = true)
    (after : goesFirst second third = true) :
    goesFirst first third = true :=
  precedes_trans before after

theorem findVictim_of_visit
    {first : (_ : String) × SessionPrincipal}
    {rest : List ((_ : String) × SessionPrincipal)}
    (visit_eq : order.visit sessions = first :: rest) :
    findVictim order sessions = some (Scan.pick goesFirst first (first :: rest)).1 := by
  unfold findVictim
  rw [visit_eq]
  rfl

/-- A session is before the choice of a scan exactly if none of the scanned precedes it,
it ties with none of them, and it can be compared with the one the scan started from. -/
theorem precedes_pick_iff
    {own : SessionPrincipal}
    {first : (_ : String) × SessionPrincipal}
    {rest : List ((_ : String) × SessionPrincipal)} :
    precedes own (Scan.pick goesFirst first (first :: rest)).2 = true ↔
      (∀ entry ∈ first :: rest, precedes entry.2 own = false) ∧
      (∀ entry ∈ first :: rest, entry.2.principal.exp = own.principal.exp →
        entry.2.updatedAtS ≠ own.updatedAtS) ∧
      (0 < own.principal.exp ∨ first.2.principal.exp = own.principal.exp) := by
  have started := Scan.pick_eq_or_precedes goesFirst goesFirst_trans first (first :: rest)
  have minimal : ∀ entry ∈ first :: rest,
      precedes entry.2 (Scan.pick goesFirst first (first :: rest)).2 = false := by
    intro entry member
    exact Scan.pick_minimal goesFirst (fun entry => precedes_irrefl entry.2)
      goesFirst_trans (List.mem_cons_of_mem first member)
  have chosen : Scan.pick goesFirst first (first :: rest) ∈ first :: rest := by
    rw [Scan.pick_cons, ite_self]
    exact Scan.pick_mem goesFirst first rest
  generalize Scan.pick goesFirst first (first :: rest) = choice at started minimal chosen
  constructor
  · intro before
    have unpreceded : ∀ entry ∈ first :: rest, precedes entry.2 own = false := by
      intro entry member
      rw [← Bool.not_eq_true]
      intro beats
      have beatsChoice := precedes_trans beats before
      rw [minimal entry member] at beatsChoice
      cases beatsChoice
    exact ⟨unpreceded, (precedes_choice_iff chosen minimal started unpreceded).mp before⟩
  · rintro ⟨unpreceded, untied⟩
    exact (precedes_choice_iff chosen minimal started unpreceded).mpr untied

/-! ## The own session -/

/-- What spares the session that is stored. -/
inductive SparesOwn
    (order : IterationOrder String SessionPrincipal)
    (sid : String)
    (own : SessionPrincipal)
    (sessions : UnorderedMap String SessionPrincipal) : Prop
  /-- The map has room. -/
  | room :
      UnorderedMap.size (sessions.insert sid own) ≤ maxSessionPrincipals →
      SparesOwn order sid own sessions
  /-- Another session expires first, or as early and was stored before. -/
  | preceded (other : String) (it : SessionPrincipal) :
      other ≠ sid → sessions.lookup other = some it → precedes it own = true →
      SparesOwn order sid own sessions
  /-- A session of the same expiry and time is visited first. -/
  | tied (entry : (_ : String) × SessionPrincipal) :
      entry ∈ (order.visit (sessions.insert sid own)).takeWhile
        (fun entry => entry.1 ≠ sid) →
      entry.2.principal.exp = own.principal.exp → entry.2.updatedAtS = own.updatedAtS →
      SparesOwn order sid own sessions
  /-- The principal has no expiry, and the session visited first has another value
  there. -/
  | incomparable (first : (_ : String) × SessionPrincipal) :
      (order.visit (sessions.insert sid own)).head? = some first →
      own.principal.exp ≤ 0 → first.2.principal.exp ≠ own.principal.exp →
      SparesOwn order sid own sessions

/-- In a full map, nothing spares a session that none precedes, that ties with none
visited before, and that can be compared. -/
theorem not_sparesOwn_iff
    {own : SessionPrincipal}
    {earlier later : List ((_ : String) × SessionPrincipal)}
    (tooMany : maxSessionPrincipals < UnorderedMap.size (sessions.insert sid own))
    (earlier_eq : (order.visit (sessions.insert sid own)).takeWhile
      (fun entry => entry.1 ≠ sid) = earlier)
    (visit_eq : order.visit (sessions.insert sid own) = earlier ++ ⟨sid, own⟩ :: later)
    (others : ∀ entry ∈ earlier ++ later, entry.1 ≠ sid) :
    ¬SparesOwn order sid own sessions ↔
      (∀ entry ∈ earlier ++ later, precedes entry.2 own = false) ∧
      (∀ entry ∈ earlier, entry.2.principal.exp = own.principal.exp →
        entry.2.updatedAtS ≠ own.updatedAtS) ∧
      (0 < own.principal.exp ∨
        ∀ first, (earlier ++ ⟨sid, own⟩ :: later).head? = some first →
          first.2.principal.exp = own.principal.exp) := by
  have visited_iff : ∀ other it, other ≠ sid →
      (sessions.lookup other = some it ↔
        (⟨other, it⟩ : (_ : String) × SessionPrincipal) ∈ earlier ++ later) := by
    intro other it isOther
    have stored_iff : (⟨other, it⟩ : (_ : String) × SessionPrincipal) ∈
        order.visit (sessions.insert sid own) ↔
          (sessions.insert sid own).lookup other = some it := IterationOrder.mem_visit
    rw [UnorderedMap.lookup_insert_eq_ite, if_neg isOther, visit_eq] at stored_iff
    rw [← stored_iff, List.mem_append, List.mem_cons, List.mem_append]
    simp [isOther]
  constructor
  · intro notSpared
    refine ⟨fun entry member => ?_, fun entry member sameExp sameTime => ?_, ?_⟩
    · by_contra before
      rw [Bool.not_eq_false] at before
      have isOther := others entry member
      exact notSpared (.preceded entry.1 entry.2 isOther
        ((visited_iff _ _ isOther).mpr member) before)
    · rw [← earlier_eq] at member
      exact notSpared (.tied entry member sameExp sameTime)
    · by_contra comparable
      rw [not_or, not_lt, not_forall] at comparable
      obtain ⟨noExpiry, first, unlike⟩ := comparable
      rw [Classical.not_imp, ← visit_eq] at unlike
      exact notSpared (.incomparable first unlike.1 noExpiry unlike.2)
  · rintro ⟨unpreceded, untied, comparable⟩ spared
    cases spared with
    | room fits => exact absurd fits (Nat.not_le_of_lt tooMany)
    | preceded other it isOther stored before =>
        rw [unpreceded _ ((visited_iff other it isOther).mp stored)] at before
        cases before
    | tied entry member sameExp sameTime =>
        rw [earlier_eq] at member
        exact untied entry member sameExp sameTime
    | incomparable first isFirst noExpiry unlike =>
        rw [visit_eq] at isFirst
        rcases comparable with expires | alike
        · exact absurd expires (not_lt_of_ge noExpiry)
        · exact unlike (alike first isFirst)

/-- The own session is visited once. -/
theorem fst_eq_iff_eq_own
    {own : SessionPrincipal}
    {earlier later : List ((_ : String) × SessionPrincipal)}
    {entry : (_ : String) × SessionPrincipal}
    (others : ∀ entry ∈ earlier ++ later, entry.1 ≠ sid)
    (member : entry ∈ earlier ++ ⟨sid, own⟩ :: later) :
    entry.1 = sid ↔ entry = ⟨sid, own⟩ := by
  rw [List.mem_append, List.mem_cons] at member
  constructor
  · intro isSid
    rcases member with inEarlier | isOwn | inLater
    · exact absurd isSid (others entry (List.mem_append_left _ inEarlier))
    · exact isOwn
    · exact absurd isSid (others entry (List.mem_append_right _ inLater))
  · rintro rfl
    rfl

/-- A scan over the sessions picks the own one exactly if nothing spares it. -/
theorem findVictim_eq_own_iff
    {own : SessionPrincipal}
    (tooMany : maxSessionPrincipals < UnorderedMap.size (sessions.insert sid own)) :
    findVictim order (sessions.insert sid own) = some sid ↔
      ¬SparesOwn order sid own sessions := by
  have stored : (sessions.insert sid own).lookup sid = some own :=
    AList.lookup_insert sessions
  obtain ⟨later, visit_eq, others⟩ := order.visit_split stored
  generalize earlier_eq : (order.visit (sessions.insert sid own)).takeWhile
    (fun entry => entry.1 ≠ sid) = earlier at visit_eq others
  rw [not_sparesOwn_iff tooMany earlier_eq visit_eq others]
  have notLater : ⟨sid, own⟩ ∉ later := fun member =>
    others _ (List.mem_append_right earlier member) rfl
  cases earlier with
  | nil =>
      have own_iff := Scan.pick_eq_first_iff goesFirst notLater
      have member := Scan.pick_mem goesFirst ⟨sid, own⟩ later
      rw [findVictim_of_visit visit_eq, Scan.pick_cons, ite_self, Option.some.injEq,
        fst_eq_iff_eq_own others member, own_iff]
      simp [goesFirst]
  | cons first rest =>
      have notEarlier : ⟨sid, own⟩ ∉ first :: rest := fun member =>
        others _ (List.mem_append_left later member) rfl
      have notFirst : (⟨sid, own⟩ : (_ : String) × SessionPrincipal) ≠ first :=
        fun isFirst => notEarlier (isFirst ▸ List.mem_cons_self)
      have own_iff := Scan.pick_append_cons_eq_iff goesFirst notFirst notEarlier notLater
      have member : Scan.pick goesFirst first (first :: rest ++ ⟨sid, own⟩ :: later) ∈
          first :: rest ++ ⟨sid, own⟩ :: later := by
        rw [List.cons_append, Scan.pick_cons, ite_self]
        exact Scan.pick_mem goesFirst first (rest ++ ⟨sid, own⟩ :: later)
      rw [List.cons_append] at visit_eq
      rw [findVictim_of_visit visit_eq, ← List.cons_append, Option.some.injEq,
        fst_eq_iff_eq_own others member, own_iff, List.forall_mem_append, and_right_comm]
      simp only [List.cons_append, List.head?_cons, Option.some.injEq, forall_eq']
      exact and_congr_left fun _ => precedes_pick_iff

/-! ## What a store promises -/

/-- A store keeps its own session, and costs at most one other, and that only if the
map is full. -/
structure KeepsSession
    (sid : String)
    (principal : Principal)
    (nowS : Int)
    (sessions after : UnorderedMap String SessionPrincipal) : Prop where
  size_le : UnorderedMap.size after ≤ maxSessionPrincipals
  stored : after.lookup sid = some { principal, updatedAtS := nowS }
  unchanged : ∀ other, other ≠ sid →
    after.lookup other = sessions.lookup other ∨ after.lookup other = none
  atMostOne : ∀ first second, first ≠ sid → second ≠ sid →
    after.lookup first ≠ sessions.lookup first →
    after.lookup second ≠ sessions.lookup second → first = second
  onlyFull : ∀ other, other ≠ sid → after.lookup other ≠ sessions.lookup other →
    maxSessionPrincipals <
      UnorderedMap.size (sessions.insert sid { principal, updatedAtS := nowS })

/-- A store keeps its promise exactly if something spares the session it stores. -/
theorem storeSessionPrincipal_keepsSession_iff
    (order : IterationOrder String SessionPrincipal)
    (sid : String)
    (principal : Principal)
    (nowS : Int)
    (sessions : UnorderedMap String SessionPrincipal)
    (fits : UnorderedMap.size sessions ≤ maxSessionPrincipals) :
    KeepsSession sid principal nowS sessions
        (storeSessionPrincipal order sid principal nowS sessions) ↔
      SparesOwn order sid { principal, updatedAtS := nowS } sessions := by
  have read : ∀ other,
      (storeSessionPrincipal order sid principal nowS sessions).lookup other =
        if evictedBy order sid principal nowS sessions = some other then none
        else if other = sid then some { principal, updatedAtS := nowS }
        else sessions.lookup other :=
    lookup_storeSessionPrincipal fits
  constructor
  · intro keeps
    by_contra spared
    have tooMany : maxSessionPrincipals <
        UnorderedMap.size (sessions.insert sid { principal, updatedAtS := nowS }) := by
      by_contra fits
      exact spared (.room (Nat.le_of_not_lt fits))
    have evicted : evictedBy order sid principal nowS sessions = some sid :=
      (if_pos tooMany).trans ((findVictim_eq_own_iff tooMany).mpr spared)
    have gone := read sid
    rw [if_pos evicted, keeps.stored] at gone
    cases gone
  · intro spared
    have keepsOwn : evictedBy order sid principal nowS sessions ≠ some sid := by
      intro evicted
      have tooMany := (Option.ite_none_right_eq_some.mp evicted)
      exact (findVictim_eq_own_iff tooMany.1).mp tooMany.2 spared
    have changed : ∀ other, other ≠ sid →
        (storeSessionPrincipal order sid principal nowS sessions).lookup other ≠
          sessions.lookup other →
        evictedBy order sid principal nowS sessions = some other := by
      intro other isOther differs
      by_contra stays
      rw [read, if_neg stays, if_neg isOther] at differs
      exact differs rfl
    refine ⟨size_storeSessionPrincipal_le, ?_, fun other isOther => ?_, ?_, ?_⟩
    · rw [read, if_neg keepsOwn, if_pos rfl]
    · rw [read, if_neg isOther]
      split
      · exact .inr rfl
      · exact .inl rfl
    · intro first second firstOther secondOther firstChanged secondChanged
      have evicted := changed first firstOther firstChanged
      rw [changed second secondOther secondChanged] at evicted
      exact (Option.some.inj evicted).symm
    · intro other isOther differs
      exact (Option.ite_none_right_eq_some.mp (changed other isOther differs)).1

/-- So many sessions that expire at two. -/
def crowd (count : Nat) : UnorderedMap String SessionPrincipal where
  entries := (List.range count).map fun n =>
    ⟨String.ofList (List.replicate (n + 1) 'x'), { principal := { subject := "ada", exp := 2 } }⟩
  nodupKeys := by
    rw [List.NodupKeys, List.keys, List.map_map]
    apply List.nodup_range.map
    intro first second same
    have lengths := congrArg (fun sid : String => sid.toList.length) same
    simpa using lengths

theorem size_crowd (count : Nat) : UnorderedMap.size (crowd count) = count := by
  simp [UnorderedMap.size, crowd]

theorem crowd_entry
    {count : Nat}
    {it : SessionPrincipal}
    (stored : (crowd count).lookup sid = some it) :
    sid ≠ "y" ∧ it.principal.exp = 2 := by
  have member : (⟨sid, it⟩ : (_ : String) × SessionPrincipal) ∈ (crowd count).entries :=
    AList.mem_lookup_iff.mp stored
  obtain ⟨n, -, equal⟩ := List.mem_map.mp member
  cases equal
  refine ⟨fun isY => ?_, rfl⟩
  have chars := congrArg String.toList isY
  simp [List.replicate_succ] at chars

/-- A principal that expires sooner is evicted by its own store. -/
theorem evicts_stored_session :
    UnorderedMap.size (crowd maxSessionPrincipals) ≤ maxSessionPrincipals ∧
      ¬KeepsSession "y" { subject := "bob", exp := 1 } 0 (crowd maxSessionPrincipals)
        (storeSessionPrincipal .stored "y" { subject := "bob", exp := 1 } 0
          (crowd maxSessionPrincipals)) := by
  have size_eq := size_crowd maxSessionPrincipals
  generalize crowd_eq : crowd maxSessionPrincipals = sessions at size_eq ⊢
  have stored : ∀ sid it, sessions.lookup sid = some it →
      sid ≠ "y" ∧ it.principal.exp = 2 := by
    rintro sid it stored
    rw [← crowd_eq] at stored
    exact crowd_entry stored
  have absent : "y" ∉ sessions := by
    intro member
    obtain ⟨it, found⟩ := Option.isSome_iff_exists.mp (AList.lookup_isSome.mpr member)
    exact (stored _ it found).1 rfl
  have tooMany : maxSessionPrincipals < UnorderedMap.size
      (sessions.insert "y" { principal := { subject := "bob", exp := 1 }, updatedAtS := 0 }) := by
    rw [UnorderedMap.size_eq_length_keys, AList.keys_insert, List.length_cons,
      List.erase_of_not_mem (fun member => absent (AList.mem_keys.mpr member)),
      ← UnorderedMap.size_eq_length_keys, size_eq]
    exact Nat.lt_succ_self _
  have unspared : ¬SparesOwn .stored "y"
      { principal := { subject := "bob", exp := 1 }, updatedAtS := 0 } sessions := by
    intro spared
    cases spared with
    | room fits => exact absurd fits (Nat.not_le_of_lt tooMany)
    | preceded other it isOther found before =>
        simp [precedes_iff, (stored other it found).2] at before
    | tied entry member sameExp sameTime =>
        have isOther := List.all_eq_true.mp List.all_takeWhile _ member
        rw [decide_eq_true_eq] at isOther
        have found := IterationOrder.mem_visit.mp (List.takeWhile_subset _ member)
        rw [UnorderedMap.lookup_insert_eq_ite, if_neg isOther] at found
        rw [(stored _ _ found).2] at sameExp
        exact absurd sameExp (by decide)
    | incomparable first isFirst noExpiry unlike => exact absurd noExpiry (by decide)
  have evicted : evictedBy .stored "y" { subject := "bob", exp := 1 } 0 sessions =
      some "y" :=
    (if_pos tooMany).trans ((findVictim_eq_own_iff tooMany).mpr unspared)
  refine ⟨le_of_eq size_eq, fun keeps => ?_⟩
  have kept := keeps.stored
  rw [lookup_storeSessionPrincipal (le_of_eq size_eq), if_pos evicted] at kept
  cases kept

theorem lookup_crowd
    {count : Nat}
    (some_stored : 0 < count) :
    (crowd count).lookup "x" = some { principal := { subject := "ada", exp := 2 } } := by
  rw [← Option.mem_def, AList.mem_lookup_iff]
  exact List.mem_map.mpr ⟨0, List.mem_range.mpr some_stored, rfl⟩

/-- In a full map, a principal that expires later is kept, and one of the crowd goes. -/
theorem keepsSession_sample :
    UnorderedMap.size (crowd maxSessionPrincipals) = maxSessionPrincipals ∧
      KeepsSession "y" { subject := "bob", exp := 3 } 0 (crowd maxSessionPrincipals)
        (storeSessionPrincipal .stored "y" { subject := "bob", exp := 3 } 0
          (crowd maxSessionPrincipals)) :=
  ⟨size_crowd maxSessionPrincipals,
    (storeSessionPrincipal_keepsSession_iff .stored "y" { subject := "bob", exp := 3 } 0
      (crowd maxSessionPrincipals) (le_of_eq (size_crowd maxSessionPrincipals))).mpr
      (.preceded "x" { principal := { subject := "ada", exp := 2 } } (by decide)
        (lookup_crowd (by decide)) (by decide))⟩

end Session
end QuackOauth
