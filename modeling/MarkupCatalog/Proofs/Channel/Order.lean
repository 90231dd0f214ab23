import Mathlib.Tactic.FinCases
import MarkupCatalog.Proofs.Channel.Delivery

/-!
# Every listener is told everything in order

That a listener is told every record once does not say in which order.  If a listener adds a
record while another one is being told, those who are called later hear of the new record first.
As long as no listener does so, and none ends the channel, every registration gets the records in
the order in which they were added, and then the end.

What carries the proof is that the calls that were made, followed by those on the agenda, are told
in order (`ToldInOrder`).  A call moves from the one part to the other, and so changes nothing;
and what an operation of a listener adds between the two parts cannot overtake what an earlier
registration has still to be told, because it concerns a new registration or another signal.
Each call is put down to one registration, so a listener may well be registered several times.
-/

namespace MarkupCatalog

variable {ρ L : Type}

/-- Does the operation give the channel a record or its end? -/
def Operation.isProduction : Operation ρ L → Bool
  | .push _ => true
  | .finish => true
  | _ => false

/-- The listeners that are registered. -/
def Operation.subscription? : Operation ρ L → Option (Subscription L)
  | .subscribe s => some s
  | _ => none

/-- The registrations among operations, in their order. -/
def registrations (performed : List (Operation ρ L)) : List (Subscription L) :=
  performed.filterMap Operation.subscription?

/-- The listeners of a kind are those of the registrations. -/
theorem filterMap_registrations (kind : Subscription L → Option L)
    (performed : List (Operation ρ L)) :
    (registrations performed).filterMap kind =
      performed.filterMap (Operation.listener? kind) := by
  rw [registrations, List.filterMap_filterMap]
  refine List.filterMap_congr fun op _ => ?_
  cases op <;> rfl

/-- Does the call tell a record or the end? -/
def Call.isDelivery (c : Call ρ L) : Bool :=
  match c.signal with
  | .record _ => true
  | .ended => true
  | _ => false

/-- Calls of one kind that tell a record or the end. -/
theorem filter_callAll_of_delivery {signal : Signal ρ}
    (h : ∀ l : L, (Call.mk l signal).isDelivery = true) (listeners : List L) :
    (Channel.callAll listeners signal).filter Call.isDelivery =
      Channel.callAll listeners signal := by
  rw [List.filter_eq_self]
  intro c hc
  obtain ⟨l, _, rfl⟩ := List.mem_map.mp hc
  exact h l

/-- Calls of one kind that tell something else. -/
theorem filter_callAll_of_other {signal : Signal ρ}
    (h : ∀ l : L, (Call.mk l signal).isDelivery = false) (listeners : List L) :
    (Channel.callAll listeners signal).filter Call.isDelivery = [] := by
  rw [List.filter_eq_nil_iff]
  intro c hc
  obtain ⟨l, _, rfl⟩ := List.mem_map.mp hc
  exact Bool.not_eq_true _ ▸ h l

/-- What a channel has to tell a registration: the records in their order, and then the end. -/
def Channel.dueTo (c : Channel ρ L) (s : Subscription L) : List (Call ρ L) :=
  (match s.onRecord with
    | some l => c.records.map fun r => ⟨l, .record r⟩
    | none => [])
  ++ (if c.ended then callAll s.onEnd.toList .ended else [])

/-- What is due to a registration are records and the end. -/
theorem Channel.isDelivery_of_mem_dueTo {c : Channel ρ L} {s : Subscription L} {call : Call ρ L}
    (h : call ∈ c.dueTo s) : call.isDelivery = true := by
  rcases List.mem_append.mp h with hrecord | hended
  · split at hrecord
    · obtain ⟨r, _, rfl⟩ := List.mem_map.mp hrecord
      rfl
    · cases hrecord
  · split at hended
    · obtain ⟨l, _, rfl⟩ := List.mem_map.mp hended
      rfl
    · cases hended

/-- What is replayed to a registration is what is due to it, and then other signals. -/
theorem Channel.filter_isDelivery_replay (c : Channel ρ L) (s : Subscription L) :
    (c.replay s).filter Call.isDelivery = c.dueTo s := by
  have hcompleted : (if c.completed then callAll (ρ := ρ) s.onComplete.toList .completed
      else []).filter Call.isDelivery = [] := by
    split
    · exact filter_callAll_of_other (fun _ => rfl) _
    · rfl
  have hdue : (c.dueTo s).filter Call.isDelivery = c.dueTo s :=
    List.filter_eq_self.mpr fun _ hc => isDelivery_of_mem_dueTo hc
  have hreplay : c.replay s = c.dueTo s ++ _ ++ _ := rfl
  rw [hreplay, List.filter_append, List.filter_append, hcompleted, hdue, List.append_nil]
  split
  · rw [filter_callAll_of_other fun _ => rfl, List.append_nil]
  · exact List.append_nil _

/-- No listener gives the channel a record or its end. -/
def Script.IsPassive (script : Script ρ L) : Prop :=
  ∀ entry ∈ script, ∀ op ∈ entry.2, op.isProduction = false

/-- A passive script stays so when an entry is taken. -/
theorem Script.IsPassive.take [DecidableEq L] {script : Script ρ L} (h : IsPassive script)
    (l : L) : IsPassive (script.take l).2 ∧ ∀ op ∈ (script.take l).1, op.isProduction = false := by
  induction script with
  | nil => exact ⟨h, List.forall_mem_nil _⟩
  | cons entry rest ih =>
      obtain ⟨hentry, hrest⟩ := List.forall_mem_cons.mp h
      obtain ⟨hleft, htaken⟩ := ih hrest
      rw [Script.take]
      split
      · exact ⟨hrest, hentry⟩
      · exact ⟨List.forall_mem_cons.mpr ⟨hentry, hleft⟩, htaken⟩

/-! ## Calls that are put down to registrations -/

/-- The calls that are put down to the registration with a number. -/
def share (i : Nat) (told : List (Nat × Call ρ L)) : List (Call ρ L) :=
  told.filterMap fun t => if t.1 = i then some t.2 else none

@[simp]
theorem share_append (i : Nat) (first second : List (Nat × Call ρ L)) :
    share i (first ++ second) = share i first ++ share i second :=
  List.filterMap_append

theorem mem_share {i : Nat} {c : Call ρ L} {told : List (Nat × Call ρ L)} :
    c ∈ share i told ↔ (i, c) ∈ told := by
  rw [share, List.mem_filterMap]
  constructor
  · rintro ⟨⟨j, d⟩, hmem, heq⟩
    split at heq
    · next hj =>
      cases heq
      cases hj
      exact hmem
    · cases heq
  · intro hmem
    exact ⟨(i, c), hmem, if_pos rfl⟩

theorem share_eq_nil {i : Nat} {told : List (Nat × Call ρ L)} (h : ∀ t ∈ told, t.1 ≠ i) :
    share i told = [] := by
  rw [List.eq_nil_iff_forall_not_mem]
  intro c hc
  exact h _ (mem_share.mp hc) rfl

/-- Calls that are all put down to one registration. -/
theorem share_map_mk (i j : Nat) (calls : List (Call ρ L)) :
    share i (calls.map (j, ·)) = if j = i then calls else [] := by
  split
  · next h => simp [share, h]
  · next h =>
    apply share_eq_nil
    rintro t ht rfl
    obtain ⟨c, _, rfl⟩ := List.mem_map.mp ht
    exact h rfl

/-- **Records and end are told in order.**  Every call that tells a record or the end can be put
down to one of the registrations, so that each of these gets what is due to it in the right
order. -/
structure ToldInOrder (registered : List (Subscription L)) (channel : Channel ρ L)
    (calls : List (Call ρ L)) (told : List (Nat × Call ρ L)) : Prop where
  calls_eq : told.map Prod.snd = calls.filter Call.isDelivery
  number : ∀ t ∈ told, t.1 < registered.length
  share_eq : ∀ i s, registered[i]? = some s → share i told = channel.dueTo s

variable {registered : List (Subscription L)} {c d : Channel ρ L}
  {calls before new after : List (Call ρ L)} {told more : List (Nat × Call ρ L)}

/-- Calls that tell something else may come in between. -/
theorem ToldInOrder.insert_others (h : ToldInOrder registered c (before ++ after) told)
    (hnew : new.filter Call.isDelivery = []) (hrecords : d.records = c.records)
    (hended : d.ended = c.ended) :
    ToldInOrder registered d (before ++ (new ++ after)) told where
  calls_eq := by simp only [h.calls_eq, List.filter_append, hnew, List.nil_append]
  number := h.number
  share_eq i s hs := by
    rw [h.share_eq i s hs, Channel.dueTo, Channel.dueTo, hrecords, hended]

/-- What is replayed to a new registration may come in between. -/
theorem ToldInOrder.insert_replay (h : ToldInOrder registered c (before ++ after) told)
    (s : Subscription L) (hrecords : d.records = c.records) (hended : d.ended = c.ended) :
    ∃ told', ToldInOrder (registered ++ [s]) d (before ++ (c.replay s ++ after)) told' := by
  have hdue (s : Subscription L) : d.dueTo s = c.dueTo s := by
    rw [Channel.dueTo, Channel.dueTo, hrecords, hended]
  obtain ⟨hcalls, hnumber, hshare⟩ := h
  rw [List.filter_append] at hcalls
  obtain ⟨first, second, rfl, hfirst, hsecond⟩ := List.map_eq_append_iff.mp hcalls
  have hnew : (((c.dueTo s).map (registered.length, ·)).map Prod.snd) = c.dueTo s := by
    simp [Function.comp_def]
  refine ⟨first ++ ((c.dueTo s).map (registered.length, ·) ++ second), ?_, ?_, ?_⟩
  · simp only [List.map_append, hfirst, hsecond, hnew, List.filter_append,
      Channel.filter_isDelivery_replay]
  · intro t ht
    rw [List.length_append, List.length_singleton]
    simp only [List.mem_append, List.mem_map] at ht
    rcases ht with ht | ⟨_, _, rfl⟩ | ht
    · have := hnumber t (List.mem_append_left _ ht)
      omega
    · simp
    · have := hnumber t (List.mem_append_right _ ht)
      omega
  · intro i s' hs'
    rw [share_append, share_append, share_map_mk, hdue]
    rcases Nat.lt_trichotomy i registered.length with hlt | rfl | hgt
    · -- an older registration gets nothing new
      rw [List.getElem?_append_left hlt] at hs'
      rw [if_neg (by omega), List.nil_append, ← share_append]
      exact hshare i s' hs'
    · -- nothing was put down to the new registration before
      rw [List.getElem?_concat_length] at hs'
      cases hs'
      have hnone (part : List (Nat × Call ρ L)) (hpart : part ⊆ first ++ second) :
          share registered.length part = [] :=
        share_eq_nil fun t ht => Nat.ne_of_lt (hnumber t (hpart ht))
      rw [if_pos rfl, hnone first (List.subset_append_left _ _),
        hnone second (List.subset_append_right _ _), List.nil_append, List.append_nil]
    · have hnone : (registered ++ [s])[i]? = none := by
        rw [List.getElem?_eq_none_iff, List.length_append, List.length_singleton]
        omega
      cases hs'.symm.trans hnone

/-- When all calls were made, each registration may be told what is newly due to it. -/
theorem ToldInOrder.append (h : ToldInOrder registered c calls told)
    (hnew : more.map Prod.snd = new.filter Call.isDelivery)
    (hnumber : ∀ t ∈ more, t.1 < registered.length)
    (hdue : ∀ i s, registered[i]? = some s → d.dueTo s = c.dueTo s ++ share i more) :
    ToldInOrder registered d (calls ++ new) (told ++ more) where
  calls_eq := by rw [List.map_append, List.filter_append, h.calls_eq, hnew]
  number t ht := (List.mem_append.mp ht).elim (h.number t) (hnumber t)
  share_eq i s hs := by rw [share_append, h.share_eq i s hs, hdue i s hs]

/-- One call of the same kind for each registration, beginning with the one with a number. -/
def announce (kind : Subscription L → Option L) (signal : Signal ρ) :
    Nat → List (Subscription L) → List (Nat × Call ρ L)
  | _, [] => []
  | n, s :: rest =>
      (Channel.callAll (kind s).toList signal).map (n, ·) ++ announce kind signal (n + 1) rest

theorem map_snd_announce (kind : Subscription L → Option L) (signal : Signal ρ) (n : Nat)
    (registered : List (Subscription L)) :
    (announce kind signal n registered).map Prod.snd =
      Channel.callAll (registered.filterMap kind) signal := by
  induction registered generalizing n with
  | nil => rfl
  | cons s rest ih =>
      rw [announce, List.map_append, ih, List.filterMap_cons]
      cases kind s <;> simp [Channel.callAll]

theorem number_announce {kind : Subscription L → Option L} {signal : Signal ρ} {n : Nat}
    {t : Nat × Call ρ L} (h : t ∈ announce kind signal n registered) :
    n ≤ t.1 ∧ t.1 < n + registered.length := by
  induction registered generalizing n with
  | nil => cases h
  | cons s rest ih =>
      rw [List.length_cons]
      rcases List.mem_append.mp h with hfirst | hrest
      · obtain ⟨_, _, rfl⟩ := List.mem_map.mp hfirst
        simp
      · have := ih hrest
        omega

/-- Each registration gets its own call. -/
theorem share_announce (kind : Subscription L → Option L) (signal : Signal ρ) (n : Nat) {i : Nat}
    {s : Subscription L} (h : registered[i]? = some s) :
    share (n + i) (announce kind signal n registered) =
      Channel.callAll (kind s).toList signal := by
  induction registered generalizing n i with
  | nil => cases h
  | cons s' rest ih =>
      rw [announce, share_append, share_map_mk]
      cases i with
      | zero =>
          cases h
          have hlater : share (n + 0) (announce kind signal (n + 1) rest) = [] := by
            apply share_eq_nil
            intro t ht
            have := (number_announce ht).1
            omega
          rw [hlater, List.append_nil]
          exact if_pos rfl
      | succ i =>
          rw [if_neg (by omega), List.nil_append, Nat.add_comm i 1, ← Nat.add_assoc]
          exact ih (n + 1) h

/-! ## One operation -/

namespace Performance

/-- **What an operation keeps.**  An operation that gives the channel a record or its end must
find nothing left to do. -/
theorem Effect.toldInOrder {p q : Performance ρ L} {op : Operation ρ L}
    {performed : List (Operation ρ L)} (heffect : p.Effect op q)
    (hreflects : p.channel.Reflects performed)
    (hidle : op.isProduction = true → p.agenda = [])
    (h : ToldInOrder (registrations performed) p.channel (p.calls ++ pending p.agenda) told) :
    ∃ told', ToldInOrder (registrations (performed ++ [op])) q.channel
      (q.calls ++ pending q.agenda) told' := by
  have hsame (hop : op.subscription? = none) :
      registrations (performed ++ [op]) = registrations performed := by
    rw [registrations, Channel.filterMap_concat, hop]
    exact List.append_nil _
  have hpending (change : Channel ρ L × List (Call ρ L)) :
      (p.owe change).calls ++ pending (p.owe change).agenda =
        p.calls ++ (change.2 ++ pending p.agenda) := by
    rw [owe, pending_calls]
  cases heffect with
  | push hpush =>
      rw [hsame rfl, hpending, hidle rfl]
      rw [hidle rfl] at h
      rw [Channel.push] at hpush
      split at hpush
      · cases hpush
      · next r _ hopen =>
        cases hpush
        simp only [pending, List.append_nil] at h ⊢
        refine ⟨told ++ announce (·.onRecord) (.record r) 0 (registrations performed),
          h.append ?_ ?_ ?_⟩
        · rw [map_snd_announce, filterMap_registrations, ← hreflects.recordListeners]
          exact (filter_callAll_of_delivery (fun _ => rfl) _).symm
        · intro t ht
          have := (number_announce ht).2
          omega
        · intro i s hs
          have hshare := share_announce (·.onRecord) (Signal.record r) 0 hs
          rw [Nat.zero_add] at hshare
          rw [hshare]
          cases honRecord : s.onRecord <;>
            simp [Channel.dueTo, owe, Channel.callAll, hopen, honRecord]
  | finish =>
      rw [hsame rfl, hpending, hidle rfl]
      rw [hidle rfl] at h
      simp only [pending, List.append_nil] at h ⊢
      rw [Channel.finish]
      split
      · next hended =>
        exact ⟨told, by simpa [owe, Channel.finish, hended] using h⟩
      · next hopen =>
        refine ⟨told ++ announce (·.onEnd) .ended 0 (registrations performed),
          h.append ?_ ?_ ?_⟩
        · rw [map_snd_announce, filterMap_registrations, ← hreflects.endListeners]
          exact (filter_callAll_of_delivery (fun _ => rfl) _).symm
        · intro t ht
          have := (number_announce ht).2
          omega
        · intro i s hs
          have hshare := share_announce (ρ := ρ) (·.onEnd) .ended 0 hs
          rw [Nat.zero_add] at hshare
          rw [hshare]
          simp [Channel.dueTo, owe, hopen]
  | complete =>
      rw [hsame rfl, hpending]
      show ∃ told', ToldInOrder _ p.channel.complete.1 _ told'
      rw [Channel.complete]
      split
      · exact ⟨told, h⟩
      · exact ⟨told, h.insert_others (filter_callAll_of_other (fun _ => rfl) _) rfl rfl⟩
  | @fail f =>
      rw [hsame rfl, hpending]
      show ∃ told', ToldInOrder _ (p.channel.fail f).1 _ told'
      rw [Channel.fail]
      split
      · exact ⟨told, h⟩
      · exact ⟨told, h.insert_others (filter_callAll_of_other (fun _ => rfl) _) rfl rfl⟩
  | @subscribe s =>
      rw [registrations, Channel.filterMap_concat, hpending]
      exact h.insert_replay s rfl rfl
  | look hlooks =>
      have hop : op.subscription? = none := by
        cases op <;> first | rfl | cases hlooks
      rw [hsame hop]
      exact ⟨told, h⟩

/-! ## Courses in which listeners only listen -/

variable [DecidableEq L]

/-- A course in which no listener raises a failure, and none gives the channel a record or its
end. -/
inductive Listening (start : Performance ρ L) :
    List (Operation ρ L) → Performance ρ L → Prop
  | refl : Listening start [] start
  | start {performed p op q result} : Listening start performed p → p.agenda = [] →
      p.perform op = .ok (q, result) → Listening start (performed ++ [op]) q
  | perform {performed p op rest q result} : Listening start performed p →
      p.agenda = .perform op :: rest → op.isProduction = false →
      ({ p with agenda := rest } : Performance ρ L).perform op = .ok (q, result) →
      Listening start (performed ++ [op]) q
  | call {performed p c rest} : Listening start performed p → p.agenda = .call c :: rest →
      Listening start performed (({ p with agenda := rest } : Performance ρ L).call c)
  | refuse {performed p op rest f} : Listening start performed p →
      p.agenda = .perform op :: rest →
      ({ p with agenda := rest } : Performance ρ L).perform op = .error f →
      Listening start performed { p with agenda := rest }

variable {start p : Performance ρ L} {performed : List (Operation ρ L)}

theorem Listening.course (h : Listening start performed p) : Course start performed [] p := by
  induction h with
  | refl => exact .refl
  | start _ hidle hperform ih => exact ih.start hidle hperform
  | perform _ hagenda _ hperform ih => exact ih.perform hagenda hperform
  | call _ hagenda ih => exact ih.call hagenda
  | refuse _ hagenda hperform ih => exact ih.refuse hagenda hperform

/-- **What a course keeps** in which listeners only listen. -/
theorem Listening.toldInOrder (h : Listening start performed p)
    (hstart : start.channel.Reflects [] ∧ start.calls = [] ∧ start.agenda = []) :
    ∃ told, ToldInOrder (registrations performed) p.channel (p.calls ++ pending p.agenda) told := by
  obtain ⟨hreflects, hcalls, hagenda⟩ := hstart
  induction h with
  | refl =>
      refine ⟨[], ?_, List.forall_mem_nil _, ?_⟩
      · rw [hcalls, hagenda]
        rfl
      · intro i s hs
        cases hs
  | start hlistening hidle hperform ih =>
      obtain ⟨told, htold⟩ := ih
      exact (perform_effect hperform).toldInOrder (hlistening.course.reflects hreflects)
        (fun _ => hidle) htold
  | @perform _ p op rest _ _ hlistening hagenda' hop hperform ih =>
      obtain ⟨told, htold⟩ := ih
      rw [hagenda', pending] at htold
      have hreflects' : ({ p with agenda := rest } : Performance ρ L).channel.Reflects _ :=
        hlistening.course.reflects hreflects
      refine (perform_effect hperform).toldInOrder hreflects' ?_ htold
      intro hproduction
      cases hop.symm.trans hproduction
  | call _ hagenda' ih =>
      -- the call goes from one part of the list to the other
      obtain ⟨told, htold⟩ := ih
      refine ⟨told, ?_⟩
      rw [hagenda', pending] at htold
      rw [Performance.call, pending_performs, List.append_assoc]
      exact htold
  | refuse _ hagenda' _ ih =>
      rw [hagenda', pending] at ih
      exact ih

omit [DecidableEq L] in
/-- An operation leaves the operations on the agenda and in the script as they are. -/
theorem Effect.operations_eq {p q : Performance ρ L} {op : Operation ρ L} (h : p.Effect op q) :
    q.script = p.script ∧ ∀ op', .perform op' ∈ q.agenda → .perform op' ∈ p.agenda := by
  have howe (change : Channel ρ L × List (Call ρ L)) (op' : Operation ρ L)
      (hmem : .perform op' ∈ (p.owe change).agenda) : .perform op' ∈ p.agenda := by
    rcases List.mem_append.mp hmem with hcall | hold
    · obtain ⟨_, _, heq⟩ := List.mem_map.mp hcall
      cases heq
    · exact hold
  cases h with
  | look _ => exact ⟨rfl, fun _ hmem => hmem⟩
  | _ => exact ⟨rfl, howe _⟩

/-- **By a passive script, listeners only listen.** -/
theorem Course.listening {raised : List Failure} (h : Course start performed raised p)
    (hraised : raised = []) (hscript : Script.IsPassive start.script) (hstart : start.agenda = []) :
    Listening start performed p ∧ Script.IsPassive p.script ∧
      ∀ op, .perform op ∈ p.agenda → op.isProduction = false := by
  induction h with
  | refl =>
      refine ⟨.refl, hscript, ?_⟩
      intro op hop
      rw [hstart] at hop
      cases hop
  | start _ hidle hperform ih =>
      obtain ⟨hlistening, hpassive, htasks⟩ := ih hraised
      obtain ⟨hsame, hold⟩ := (perform_effect hperform).operations_eq
      exact ⟨hlistening.start hidle hperform, hsame ▸ hpassive,
        fun op hop => htasks op (hold op hop)⟩
  | perform _ hagenda hperform ih =>
      obtain ⟨hlistening, hpassive, htasks⟩ := ih hraised
      rw [hagenda] at htasks
      obtain ⟨hsame, hold⟩ := (perform_effect hperform).operations_eq
      exact ⟨hlistening.perform hagenda (htasks _ List.mem_cons_self) hperform, hsame ▸ hpassive,
        fun op hop => htasks op (List.mem_cons_of_mem _ (hold op hop))⟩
  | call _ hagenda ih =>
      obtain ⟨hlistening, hpassive, htasks⟩ := ih hraised
      rw [hagenda] at htasks
      obtain ⟨hleft, htaken⟩ := hpassive.take _
      refine ⟨hlistening.call hagenda, hleft, ?_⟩
      intro op hop
      rcases List.mem_append.mp hop with hnew | hrest
      · obtain ⟨op', hop', heq⟩ := List.mem_map.mp hnew
        cases heq
        exact htaken op hop'
      · exact htasks op (List.mem_cons_of_mem _ hrest)
  | refuse _ hagenda hperform ih =>
      obtain ⟨hlistening, hpassive, htasks⟩ := ih hraised
      rw [hagenda] at htasks
      exact ⟨hlistening.refuse hagenda hperform, hpassive,
        fun op hop => htasks op (List.mem_cons_of_mem _ hop)⟩
  | raise _ _ _ _ => simp at hraised

end Performance

/-! ## Listeners that are registered once -/

open Performance

variable [DecidableEq L]

/-- Somebody who is counted once is found at one place. -/
theorem eq_of_count_filterMap_eq_one {α : Type} {kind : α → Option L} {l : L} {xs : List α}
    {i j : Nat} {x y : α} (h : (xs.filterMap kind).count l = 1) (hi : xs[i]? = some x)
    (hx : kind x = some l) (hj : xs[j]? = some y) (hy : kind y = some l) : i = j := by
  have hmem {rest : List α} {k : Nat} {z : α} (hk : rest[k]? = some z) (hz : kind z = some l) :
      l ∈ rest.filterMap kind := List.mem_filterMap.mpr ⟨z, List.mem_of_getElem? hk, hz⟩
  induction xs generalizing i j with
  | nil => cases hi
  | cons first rest ih =>
      have hfirst (hkind : kind first = some l) : l ∉ rest.filterMap kind := by
        rw [List.filterMap_cons_some hkind, List.count_cons_self] at h
        exact List.count_eq_zero.mp (by omega)
      cases i with
      | zero =>
          cases j with
          | zero => rfl
          | succ j =>
              rw [List.getElem?_cons_succ] at hj
              cases hi
              exact absurd (hmem hj hy) (hfirst hx)
      | succ i =>
          cases j with
          | zero =>
              rw [List.getElem?_cons_succ] at hi
              cases hj
              exact absurd (hmem hi hx) (hfirst hy)
          | succ j =>
              have hrest : (rest.filterMap kind).count l = 1 := by
                cases hkind : kind first with
                | none => rwa [List.filterMap_cons_none hkind] at h
                | some l' =>
                    have hne : l' ≠ l := by
                      rintro rfl
                      exact hfirst hkind (hmem hi hx)
                    rwa [List.filterMap_cons_some hkind, List.count_cons_of_ne hne] at h
              rw [ih hrest hi hj]

omit [DecidableEq L] in
theorem onRecord_of_mem_dueTo {s : Subscription L} {l : L} {r : ρ}
    (h : ⟨l, .record r⟩ ∈ c.dueTo s) : s.onRecord = some l := by
  rcases List.mem_append.mp h with hrecord | hended
  · split at hrecord
    · next l' honRecord =>
      obtain ⟨_, _, heq⟩ := List.mem_map.mp hrecord
      cases heq
      exact honRecord
    · cases hrecord
  · split at hended
    · obtain ⟨_, _, heq⟩ := List.mem_map.mp hended
      cases heq
    · cases hended

omit [DecidableEq L] in
theorem onEnd_of_mem_dueTo {s : Subscription L} {e : L} (h : ⟨e, .ended⟩ ∈ c.dueTo s) :
    s.onEnd = some e := by
  rcases List.mem_append.mp h with hrecord | hended
  · split at hrecord
    · obtain ⟨_, _, heq⟩ := List.mem_map.mp hrecord
      cases heq
    · cases hrecord
  · split at hended
    · obtain ⟨_, hmem, heq⟩ := List.mem_map.mp hended
      cases heq
      exact Option.mem_toList.mp hmem
    · cases hended

omit [DecidableEq L] in
/-- Every call is put down to a registration to which it is due. -/
theorem ToldInOrder.dueTo_of_mem (h : ToldInOrder registered c calls told)
    {t : Nat × Call ρ L} (ht : t ∈ told) :
    ∃ s, registered[t.1]? = some s ∧ t.2 ∈ c.dueTo s := by
  have hs := List.getElem?_eq_getElem (h.number t ht)
  exact ⟨_, hs, h.share_eq _ _ hs ▸ mem_share.mpr ht⟩

theorem received_cons (l : L) (call : Call ρ L) (calls : List (Call ρ L)) :
    received l (call :: calls) = (recordFor? l call).toList ++ received l calls := by
  cases h : recordFor? l call <;> simp [received, h]

theorem received_append (l : L) (first second : List (Call ρ L)) :
    received l (first ++ second) = received l first ++ received l second :=
  List.filterMap_append

/-- What a listener is told does not depend on the other signals. -/
theorem received_filter_isDelivery (l : L) (calls : List (Call ρ L)) :
    received l (calls.filter Call.isDelivery) = received l calls := by
  induction calls with
  | nil => rfl
  | cons call calls ih =>
      obtain ⟨l', s⟩ := call
      cases s with
      | record r | ended => rw [List.filter_cons_of_pos rfl, received_cons, received_cons, ih]
      | completed | failed f =>
          rw [List.filter_cons_of_neg (by simp [Call.isDelivery]), received_cons, ih]
          rfl

/-- What is due to the registration of a listener tells it the records. -/
theorem received_dueTo {l : L} {s : Subscription L} (h : s.onRecord = some l) :
    received l (c.dueTo s) = c.records := by
  have hrecords : received l (c.records.map fun r => ⟨l, .record r⟩) = c.records := by
    simp [received, List.filterMap_map, Function.comp_def, recordFor?]
  have hended : received l (if c.ended then Channel.callAll (ρ := ρ) s.onEnd.toList .ended
      else []) = [] := by
    split
    · cases s.onEnd <;> rfl
    · rfl
  rw [Channel.dueTo, h, received_append, hrecords, hended, List.append_nil]

/-- A listener is told only what is put down to its own registration. -/
theorem received_map_snd {l : L} {i : Nat} {part : List (Nat × Call ρ L)}
    (h : ∀ t ∈ part, ∀ r, t.2 = ⟨l, .record r⟩ → t.1 = i) :
    received l (part.map Prod.snd) = received l (share i part) := by
  induction part with
  | nil => rfl
  | cons t part ih =>
      obtain ⟨hfirst, hrest⟩ := List.forall_mem_cons.mp h
      obtain ⟨j, l', s⟩ := t
      by_cases hj : j = i
      · have hshare : share i ((j, ⟨l', s⟩) :: part) = ⟨l', s⟩ :: share i part := by
          simp [share, hj]
        rw [hshare, List.map_cons, received_cons, received_cons, ih hrest]
      · have hshare : share i ((j, (⟨l', s⟩ : Call ρ L)) :: part) = share i part := by
          simp [share, hj]
        have hnone : recordFor? l ⟨l', s⟩ = none := by
          cases s with
          | record r =>
              have hl : l' ≠ l := by
                rintro rfl
                exact hj (hfirst r rfl)
              simp [recordFor?, hl]
          | _ => rfl
        rw [hshare, List.map_cons, received_cons, hnone, ih hrest]
        rfl

variable {l e : L}

/-- Records for a listener that is registered once are put down to this registration. -/
theorem ToldInOrder.owner_eq (h : ToldInOrder registered c calls told) {i : Nat}
    {s : Subscription L} (hi : registered[i]? = some s) (honRecord : s.onRecord = some l)
    (hl : (registered.filterMap (·.onRecord)).count l = 1) :
    ∀ t ∈ told, ∀ r, t.2 = ⟨l, .record r⟩ → t.1 = i := by
  intro t ht r hcall
  obtain ⟨s', hs', hdue⟩ := h.dueTo_of_mem ht
  rw [hcall] at hdue
  exact eq_of_count_filterMap_eq_one hl hs' (onRecord_of_mem_dueTo hdue) hi honRecord

/-- **A listener that is registered once** is told the records in their order. -/
theorem ToldInOrder.received_eq (h : ToldInOrder registered c calls told)
    (hl : (registered.filterMap (·.onRecord)).count l = 1) : received l calls = c.records := by
  have hmem : l ∈ registered.filterMap (·.onRecord) := List.count_pos_iff.mp (by omega)
  obtain ⟨s, hs, honRecord⟩ := List.mem_filterMap.mp hmem
  obtain ⟨i, hi⟩ := List.getElem?_of_mem hs
  rw [← received_filter_isDelivery, ← h.calls_eq, received_map_snd (h.owner_eq hi honRecord hl),
    h.share_eq i s hi, received_dueTo honRecord]

omit [DecidableEq L] in
/-- The end is the last thing that is due to a registration. -/
theorem eq_nil_of_dueTo {s : Subscription L} {first second : List (Call ρ L)}
    (h : c.dueTo s = first ++ ⟨e, .ended⟩ :: second) : second = [] := by
  rw [Channel.dueTo] at h
  have hone : (if c.ended then Channel.callAll (ρ := ρ) s.onEnd.toList .ended
      else []).length ≤ 1 := by
    split
    · cases s.onEnd <;> simp [Channel.callAll]
    · simp
  rcases List.append_eq_append_iff.mp h with ⟨rest, _, hend⟩ | ⟨rest, hrecords, hend⟩
  · have hlength := congrArg List.length hend
    rw [List.length_append, List.length_cons] at hlength
    exact List.eq_nil_of_length_eq_zero (by omega)
  · cases rest with
    | nil =>
        rw [List.nil_append] at hend
        have hlength := congrArg List.length hend
        rw [List.length_cons] at hlength
        exact List.eq_nil_of_length_eq_zero (by omega)
    | cons call rest =>
        -- the end would be among the records
        obtain ⟨rfl, _⟩ := List.cons.inj hend
        have hmem : ⟨e, .ended⟩ ∈ first ++ ⟨e, .ended⟩ :: rest :=
          List.mem_append_right first List.mem_cons_self
        rw [← hrecords] at hmem
        split at hmem
        · obtain ⟨_, _, heq⟩ := List.mem_map.mp hmem
          cases heq
        · cases hmem

/-- **The end comes last** for a registration whose listeners are registered once. -/
theorem ToldInOrder.received_before_end (h : ToldInOrder registered c calls told)
    {s : Subscription L} (hs : s ∈ registered) (honRecord : s.onRecord = some l)
    (honEnd : s.onEnd = some e) (hl : (registered.filterMap (·.onRecord)).count l = 1)
    (he : (registered.filterMap (·.onEnd)).count e = 1)
    (hcalls : calls = before ++ ⟨e, .ended⟩ :: after) : received l before = c.records := by
  obtain ⟨i, hi⟩ := List.getElem?_of_mem hs
  have howner := h.owner_eq hi honRecord hl
  have hsplit := h.calls_eq
  rw [hcalls, List.filter_append, List.filter_cons_of_pos rfl] at hsplit
  obtain ⟨first, rest, rfl, _, hrest⟩ := List.map_eq_append_iff.mp hsplit
  obtain ⟨⟨k, _⟩, second, rfl, rfl, hsecond⟩ := List.map_eq_cons_iff.mp hrest
  have hk : k = i := by
    obtain ⟨s', hs', hdue⟩ := h.dueTo_of_mem (List.mem_append_right first List.mem_cons_self)
    exact eq_of_count_filterMap_eq_one he hs' (onEnd_of_mem_dueTo hdue) hi honEnd
  have hnothing : share i second = [] := by
    have hshare := h.share_eq i s hi
    have hcons : share i ((k, (⟨e, .ended⟩ : Call ρ L)) :: second) =
        ⟨e, .ended⟩ :: share i second := by
      simp [share, hk]
    rw [share_append, hcons] at hshare
    exact eq_nil_of_dueTo hshare.symm
  have hafter : received l after = [] := by
    rw [← received_filter_isDelivery, ← hsecond, received_map_snd, hnothing]
    · rfl
    · exact fun t ht => howner t (List.mem_append_right first (List.mem_cons_of_mem _ ht))
  have hall := h.received_eq hl
  rw [hcalls, received_append, received_cons, hafter] at hall
  simpa [recordFor?] using hall

/-! ## When nothing is left to do -/

namespace Performance

/-- **Everybody is told everything in order.**  Let a fresh channel be used in any way, by others
and by listeners that perform operations whenever they are called; let no listener raise a
failure, add a record or end the channel.  When all is done, every call that tells a record or
the end can be put down to a registration, so that each registration was told the records in the
order in which they were added, and then the end.  A listener that is registered once was told
just the records, before the end is told to the one that was registered with it.  To start
operations one after the other, with listeners that are passive, is one way to use a channel. -/
theorem told_in_order (awaitsWriter : Bool) (script : Script ρ L) :
    let start : Performance ρ L := { channel := { awaitsWriter }, script }
    (∀ performed p, Listening start performed p → p.agenda = [] →
      p.channel.records = performed.filterMap Operation.pushed? ∧
      (∃ told, ToldInOrder (registrations performed) p.channel p.calls told) ∧
      (∀ l, p.channel.recordListeners.count l = 1 → received l p.calls = p.channel.records) ∧
      (∀ s ∈ registrations performed, ∀ l e, s.onRecord = some l → s.onEnd = some e →
        p.channel.recordListeners.count l = 1 → p.channel.endListeners.count e = 1 →
        ∀ before after, p.calls = before ++ ⟨e, .ended⟩ :: after →
          received l before = p.channel.records)) ∧
    (Script.IsPassive script → ∀ outer, start.isUndisturbed outer = true →
      ∃ performed, Listening start performed (start.startAll outer) ∧
        (start.startAll outer).agenda = []) := by
  intro start
  have hfresh : start.channel.Reflects [] := Channel.reflects_nil awaitsWriter
  constructor
  · intro performed p hlistening hidle
    obtain ⟨told, htold⟩ := hlistening.toldInOrder ⟨hfresh, rfl, rfl⟩
    have hreflects := hlistening.course.reflects hfresh
    rw [hidle, pending, List.append_nil] at htold
    rw [hreflects.recordListeners, hreflects.endListeners, ← filterMap_registrations,
      ← filterMap_registrations]
    exact ⟨hreflects.records, ⟨told, htold⟩, fun l hl => htold.received_eq hl,
      fun s hs l e honRecord honEnd hl he before after hcalls =>
        htold.received_before_end hs honRecord honEnd hl he hcalls⟩
  · intro hpassive outer hquiet
    obtain ⟨performed, hcourse, hidle⟩ := Course.refl.exists_startAll rfl hquiet
    exact ⟨performed, (hcourse.listening rfl hpassive rfl).1, hidle⟩

/-- A listener that registers two more when it is told its first record, and then tells the
channel that the file is closed. -/
def hostScript : Script Nat Nat :=
  [(0, [.subscribe { onRecord := some 1, onEnd := some 2 }, .complete])]

/-- A listener before the records, records, the end, and a listener after it. -/
def hostOperations : List (Operation Nat Nat) :=
  [.subscribe { onRecord := some 0, onEnd := some 3 }, .push 7, .push 5, .push 7, .finish,
    .subscribe { onRecord := some 4, onEnd := some 5 }]

/-- All listeners are told the records in their order, and the one that is registered during the
first record hears of the end after that. -/
theorem told_in_order_host :
    let start : Performance Nat Nat := { channel := {}, script := hostScript }
    (start.isUndisturbed hostOperations = true ∧
      ∀ l ∈ [0, 1, 4], received l (start.startAll hostOperations).calls = [7, 5, 7]) ∧
    ∃ performed p, Listening start performed p ∧ p.agenda = [] ∧
      p.calls = [⟨0, .record 7⟩, ⟨1, .record 7⟩, ⟨3, .ended⟩, ⟨2, .ended⟩] ∧
      ∀ before after, p.calls = before ++ ⟨2, .ended⟩ :: after → received 1 before = [7] := by
  intro start
  have hpassive : Script.IsPassive hostScript := by
    unfold Script.IsPassive
    decide
  obtain ⟨htold, hstarted⟩ := told_in_order false hostScript
  constructor
  · have hquiet : start.isUndisturbed hostOperations = true := by
      simp only [hostOperations, isUndisturbed, isQuiet_eq_not_isSome]
      cbv
    have hchannel : (start.startAll hostOperations).channel =
        { records := [7, 5, 7], ended := true, completed := true, settled := true,
          recordListeners := [0, 1, 4], endListeners := [3, 2, 5] } := by
      cbv
    obtain ⟨performed, hlistening, hidle⟩ := hstarted hpassive hostOperations hquiet
    obtain ⟨_, _, hreceived, _⟩ := htold performed _ hlistening hidle
    rw [hchannel] at hreceived
    refine ⟨hquiet, fun l hl => hreceived l ?_⟩
    fin_cases hl <;> rfl
  · have hfirst : Listening start _ _ :=
      Listening.refl.start rfl
        (rfl : perform _ (.subscribe { onRecord := some 0, onEnd := some 3 }) = _)
    have hhost := (hfirst.start rfl (rfl : perform _ (.push 7) = _)).call rfl
    have hguest := (hhost.perform rfl rfl rfl).call rfl
    have hcompleted := hguest.perform rfl rfl rfl
    have hended := ((hcompleted.start rfl (rfl : perform _ .finish = _)).call rfl).call rfl
    obtain ⟨_, _, _, hend⟩ := htold _ _ hended rfl
    have hregistered : { onRecord := some 1, onEnd := some 2 } ∈ registrations (ρ := Nat)
        [.subscribe { onRecord := some 0, onEnd := some 3 }, .push 7,
          .subscribe { onRecord := some 1, onEnd := some 2 }, .complete, .finish] := by
      decide
    exact ⟨_, _, hended, rfl, rfl, hend _ hregistered 1 2 rfl rfl rfl rfl⟩

end Performance

end MarkupCatalog
