import MarkupCatalog.Proofs.Channel.Chronicle

/-!
# Readers get every record once

A reader asks a channel for one record after the other.  There may be many readers, and each may
begin at any time.  In a chronicle nobody else does anything while listeners are being called, but
other threads could: in an `Interleaving` every operation may come at every moment.

The intake of a reader is what it has got since it began, and whether it was told that there are
no more records.  This is read off what has happened, and how far the reader is according to the
channel is not looked at.  What carries the proofs is that the two fit (`Follows`).

* `Turn.view` — what one step can mean for a reader;
* `Follows.turn` — every step keeps what fits, hence every interleaving does;
* `Interleaving.drain` — after the end, whoever keeps asking gets the rest and is told so;
* `Interleaving.exists_withoutOthers` — what other readers do makes no difference.
-/

namespace MarkupCatalog

variable {ρ L : Type}

/-! ## What happens to one reader -/

/-- The reader who performs the operation. -/
def Operation.reader? : Operation ρ L → Option Text
  | .startReading reader => some reader
  | .readNext reader => some reader
  | _ => none

/-- Does the reader ask for the next record? -/
def Operation.asks (reader : Text) : Operation ρ L → Bool
  | .readNext name => name = reader
  | _ => false

/-- What a reader has got since it began. -/
@[ext]
structure Intake (ρ : Type) where
  records : List ρ := []
  /-- Was the reader told that there are no more records? -/
  stopped : Bool := false
  deriving DecidableEq

/-- The place of a reader that was at this place when it asked. -/
def Channel.Next.advance : Channel.Next ρ → Nat → Nat
  | .record _, place => place + 1
  | _, place => place

/-- The intake of a reader that has asked for the next record. -/
def Intake.add (intake : Intake ρ) : Channel.Next ρ → Intake ρ
  | .record r => { intake with records := intake.records ++ [r] }
  | .stopped => { intake with stopped := true }
  | .blocked => intake

/-- What a reader is told moves it on by one record or by none. -/
theorem Intake.length_add (intake : Intake ρ) (n : Channel.Next ρ) :
    (intake.add n).records.length = n.advance intake.records.length := by
  cases n with
  | record r => exact List.length_append
  | _ => rfl

namespace Performance

/-- The reader who does this. -/
def Event.reader? (event : Event ρ L) : Option Text :=
  event.operation?.bind Operation.reader?

/-- The intake of the reader after this. -/
def Event.notes (reader : Text) (intake : Intake ρ) : Event ρ L → Intake ρ
  | .tried (.startReading name) _ => if name = reader then {} else intake
  | .tried (.readNext name) (.ok (.next n)) => if name = reader then intake.add n else intake
  | _ => intake

/-- The intake of the reader after all of this. -/
def intake (reader : Text) (events : List (Event ρ L)) : Intake ρ :=
  events.foldl (Event.notes reader) {}

/-- How often the reader asks for the next record. -/
def asked (reader : Text) (events : List (Event ρ L)) : Nat :=
  (attempts events).countP (Operation.asks reader)

/-- All of this but what other readers do. -/
def withoutOthers (reader : Text) (events : List (Event ρ L)) : List (Event ρ L) :=
  events.filter fun event => event.reader?.all (· = reader)

/-- What a reader was told goes on from what it was told before. -/
theorem intake_append (reader : Text) (events more : List (Event ρ L)) :
    intake reader (events ++ more) = more.foldl (Event.notes reader) (intake reader events) :=
  List.foldl_append

/-- A reader hears nothing of what another one asks. -/
theorem Event.notes_of_ne {reader : Text} {event : Event ρ L} (h : event.reader? ≠ some reader)
    (mine : Intake ρ) : event.notes reader mine = mine := by
  have hname {name : Text} (hreader : event.reader? = some name) : name ≠ reader := by
    rintro rfl
    exact h hreader
  cases event with
  | called c => rfl
  | tried op outcome =>
      cases op with
      | startReading name => exact if_neg (hname rfl)
      | readNext name =>
          match outcome with
          | .ok (.next n) => exact if_neg (hname rfl)
          | .error _ | .ok .done | .ok (.settled _) | .ok (.records _) => rfl
      | _ => rfl

/-- The questions of a reader are counted event by event. -/
theorem asked_append (reader : Text) (events more : List (Event ρ L)) :
    asked reader (events ++ more) = asked reader events + asked reader more := by
  rw [asked, attempts_append, List.countP_append, asked, asked]

theorem asked_readNext (reader : Text) (outcome : Except Failure (Result ρ)) :
    asked reader [(.tried (.readNext reader) outcome : Event ρ L)] = 1 := by
  simp [asked, attempts, Event.operation?, Operation.asks]

theorem asked_of_ne {reader : Text} {event : Event ρ L} (h : event.reader? ≠ some reader) :
    asked reader [event] = 0 := by
  refine List.countP_eq_zero.mpr fun op hop hasks => h ?_
  cases event with
  | called c => cases hop
  | tried op' outcome =>
      cases List.mem_singleton.mp hop
      cases op with
      | readNext name => exact congrArg some (of_decide_eq_true hasks)
      | _ => cases hasks

/-- The intake of a reader comes from what it has done itself. -/
theorem intake_withoutOthers (reader : Text) (events : List (Event ρ L)) :
    intake reader (withoutOthers reader events) = intake reader events := by
  rw [intake, withoutOthers, List.foldl_filter]
  congr 1
  funext mine event
  split
  · rfl
  · next hother =>
    refine (event.notes_of_ne ?_ mine).symm
    intro hreader
    simp [hreader] at hother

/-! ## Places -/

variable {p q : Performance ρ L} {reader name : Text}

@[simp] theorem taken_setTaken_self (p : Performance ρ L) (reader : Text) (count : Nat) :
    (p.setTaken reader count).taken reader = count := by
  simp [taken, setTaken]

theorem taken_setTaken_of_ne (h : name ≠ reader) (count : Nat) :
    (p.setTaken name count).taken reader = p.taken reader := by
  rw [taken, taken, setTaken]
  rw [List.find?_cons_of_neg (by simpa using h), List.find?_filter]
  congr 3
  funext place
  by_cases hplace : place.1 = reader <;> simp [hplace, Ne.symm h]

/-- An operation that no reader performs has nothing to do with where readers are. -/
theorem perform_withReaders {op : Operation ρ L} (hop : op.reader? = none) (p : Performance ρ L)
    (readers : List (Text × Nat)) :
    ({ p with readers } : Performance ρ L).perform op =
      (p.perform op).map fun done => ({ done.1 with readers }, done.2) := by
  cases op with
  | push r =>
      show (p.channel.push r).map _ = ((p.channel.push r).map _).map _
      cases p.channel.push r <;> rfl
  | wait =>
      show p.channel.wait.map _ = (p.channel.wait.map _).map _
      cases p.channel.wait <;> rfl
  | startReading name => cases hop
  | readNext name => cases hop
  | _ => rfl

/-- No question of a reader is refused. -/
theorem reader?_of_refused {op : Operation ρ L} {f : Failure} (h : p.perform op = .error f) :
    op.reader? = none := by
  obtain ⟨r, rfl, -⟩ | rfl | rfl := perform_refused h <;> rfl

/-- Only readers change how far they are. -/
theorem readers_of_perform {op : Operation ρ L} {result : Result ρ}
    (h : p.perform op = .ok (q, result)) :
    (∃ name, op = .startReading name ∧ q = p.setTaken name 0 ∧ result = .done) ∨
    (∃ name, op = .readNext name ∧ q = (p.readNext name).1 ∧ result = .next (p.readNext name).2) ∨
    (op.reader? = none ∧ q.readers = p.readers) := by
  cases hop : op.reader? with
  | none =>
      have hsame : p.perform op = _ := perform_withReaders hop p p.readers
      rw [h] at hsame
      exact .inr (.inr ⟨rfl, congrArg (·.1.readers) (Except.ok.inj hsame)⟩)
  | some name =>
      cases op with
      | startReading name =>
          cases h
          exact .inl ⟨name, rfl, rfl, rfl⟩
      | readNext name =>
          cases h
          exact .inr (.inl ⟨name, rfl, rfl, rfl⟩)
      | _ => cases hop

theorem readNext_snd (p : Performance ρ L) (name : Text) :
    (p.readNext name).2 = p.channel.next (p.taken name) := by
  rw [readNext]
  split
  · next hnext => exact hnext.symm
  · rfl

/-- Nothing but the place of the reader changes when it asks. -/
theorem readNext_fst (p : Performance ρ L) (name : Text) :
    (p.readNext name).1 = p ∨
      ∃ count, (p.readNext name).1 = p.setTaken name count := by
  rw [readNext]
  split
  · exact .inr ⟨_, rfl⟩
  · exact .inl rfl

theorem taken_readNext_self (p : Performance ρ L) (reader : Text) :
    (p.readNext reader).1.taken reader =
      (p.channel.next (p.taken reader)).advance (p.taken reader) := by
  rw [readNext]
  split
  · next r hnext => rw [taken_setTaken_self, hnext, Channel.Next.advance]
  · next hother =>
    cases hnext : p.channel.next (p.taken reader) with
    | record r => exact absurd hnext (hother r)
    | _ => rfl

end Performance

/-! ## What a channel has for a reader -/

namespace Channel

variable {c : Channel ρ L} {k : Nat}

/-- A reader gets the record at its place, if there is one. -/
theorem next_eq_record_iff {r : ρ} : c.next k = .record r ↔ c.records[k]? = some r := by
  rw [next]
  split
  · next r' hr =>
    rw [hr, Option.some.injEq, Next.record.injEq]
  · next hr =>
    rw [hr]
    split <;> simp

/-- A reader is stopped when the channel has ended and no record is left. -/
theorem next_eq_stopped_iff : c.next k = .stopped ↔ c.ended = true ∧ c.records.length ≤ k := by
  rw [next, ← List.getElem?_eq_none_iff]
  cases c.records[k]? <;> cases c.ended <;> simp

/-- A reader is blocked when no record is left and the channel has not ended. -/
theorem next_eq_blocked_iff : c.next k = .blocked ↔ c.ended = false ∧ c.records.length ≤ k := by
  rw [next, ← List.getElem?_eq_none_iff]
  cases c.records[k]? <;> cases c.ended <;> simp

theorem Lasts.refl (c : Channel ρ L) : c.Lasts c :=
  ⟨List.prefix_refl _, fun _ => rfl, id, id, fun _ => id⟩

/-- What lasts twice lasts. -/
theorem Lasts.trans {c d e : Channel ρ L} (h : c.Lasts d) (h' : d.Lasts e) : c.Lasts e where
  records := h.records.trans h'.records
  closed hended := (h'.closed (h.ended hended)).trans (h.closed hended)
  ended hended := h'.ended (h.ended hended)
  completed hcompleted := h'.completed (h.completed hcompleted)
  failure f hf := h'.failure f (h.failure f hf)

/-- An operation takes nothing back. -/
theorem lasts_of_effect {p q : Performance ρ L} {op : Operation ρ L} (h : p.Effect op q) :
    p.channel.Lasts q.channel := by
  have hadds := adds_of_effect h
  refine ⟨?_, fun hended => ?_, fun hended => hadds.ended.mpr (.inl hended),
    fun hcompleted => hadds.completed.mpr (.inl hcompleted), fun f hf => ?_⟩
  · rw [hadds.records]
    exact List.prefix_append _ _
  · rw [hadds.records, h.pushed?_eq_none hended, Option.toList_none, List.append_nil]
  · rw [hadds.failure, hf, Option.some_or]

end Channel

namespace Performance

variable {p q : Performance ρ L} {reader : Text} {mine : Intake ρ}

/-! ## How one reader sees a step -/

/-- What a step means for a reader. -/
inductive View (reader : Text) (p q : Performance ρ L) : Event ρ L → Prop
  | begin : q.channel = p.channel → q.taken reader = 0 →
      View reader p q (.tried (.startReading reader) (.ok .done))
  /-- The reader asks for the next record. -/
  | ask {n} : p.channel.next (p.taken reader) = n → q.channel = p.channel →
      q.taken reader = n.advance (p.taken reader) →
      View reader p q (.tried (.readNext reader) (.ok (.next n)))
  /-- It is something that others do. -/
  | other {e : Event ρ L} : e.reader? ≠ some reader → p.channel.Lasts q.channel →
      q.taken reader = p.taken reader → View reader p q e

/-- To perform an operation shows each reader what the operation says. -/
theorem View.of_perform {op : Operation ρ L} {result : Result ρ}
    (h : p.perform op = .ok (q, result)) : View reader p q (.tried op (.ok result)) := by
  have hlasts := Channel.lasts_of_effect (perform_effect h)
  obtain ⟨name, rfl, rfl, rfl⟩ | ⟨name, rfl, rfl, rfl⟩ | ⟨hnone, hreaders⟩ := readers_of_perform h
  · by_cases hname : name = reader
    · subst hname
      exact .begin rfl (taken_setTaken_self p name 0)
    · exact .other (fun heq => hname (Option.some.inj heq)) hlasts (taken_setTaken_of_ne hname 0)
  · by_cases hname : name = reader
    · subst hname
      rw [readNext_snd]
      refine .ask rfl ?_ (taken_readNext_self p name)
      obtain heq | ⟨count, heq⟩ := readNext_fst p name
      · rw [heq]
      · rw [heq, setTaken]
    · refine .other (fun heq => hname (Option.some.inj heq)) hlasts ?_
      obtain heq | ⟨count, heq⟩ := readNext_fst p name
      · rw [heq]
      · rw [heq, taken_setTaken_of_ne hname]
  · refine .other ?_ hlasts ?_
    · rw [Event.reader?, Event.operation?, Option.bind_some, hnone]
      exact nofun
    · rw [taken, taken, hreaders]

/-! ## What a reader has got -/

/-- What a reader has got fits the channel: it is how the records begin, up to the place where the
reader is, and all of them if the reader was told that there are no more. -/
structure Follows (p : Performance ρ L) (reader : Text) (mine : Intake ρ) : Prop where
  begins : mine.records <+: p.channel.records
  taken : p.taken reader = mine.records.length
  stopped : mine.stopped = true → p.channel.ended = true ∧ mine.records = p.channel.records

theorem follows_fresh (awaitsWriter : Bool) (script : Script ρ L) (reader : Text) :
    ({ channel := { awaitsWriter }, script } : Performance ρ L).Follows reader {} :=
  ⟨List.nil_prefix, rfl, nofun⟩

section

variable (h : p.Follows reader mine)

include h

/-- A reader at the end of the records has got all of them. -/
theorem Follows.all_iff :
    p.channel.records.length ≤ p.taken reader ↔ mine.records = p.channel.records := by
  rw [h.taken]
  exact ⟨h.begins.eq_of_length_le, fun heq => Nat.le_of_eq (congrArg List.length heq.symm)⟩

/-- **What a reader gets next** is the record behind those that it has got. -/
theorem Follows.next_eq_record_iff {r : ρ} :
    p.channel.next (p.taken reader) = .record r ↔ mine.records ++ [r] <+: p.channel.records := by
  obtain ⟨rest, hrest⟩ := h.begins
  rw [Channel.next_eq_record_iff, h.taken, ← hrest, List.getElem?_append_right (Nat.le_refl _),
    Nat.sub_self, List.prefix_append_right_inj]
  cases rest <;> simp [List.cons_prefix_cons, eq_comm]

/-- A reader that follows is stopped once it has all records of a channel that has ended. -/
theorem Follows.next_eq_stopped_iff : p.channel.next (p.taken reader) = .stopped ↔
    p.channel.ended = true ∧ mine.records = p.channel.records := by
  rw [Channel.next_eq_stopped_iff, h.all_iff]

/-- A reader that follows is blocked while it has all records and more may come. -/
theorem Follows.next_eq_blocked_iff : p.channel.next (p.taken reader) = .blocked ↔
    p.channel.ended = false ∧ mine.records = p.channel.records := by
  rw [Channel.next_eq_blocked_iff, h.all_iff]

/-- What a reader that asks keeps. -/
theorem Follows.ask {n : Channel.Next ρ} (hnext : p.channel.next (p.taken reader) = n)
    (hchannel : q.channel = p.channel) (htaken : q.taken reader = n.advance (p.taken reader)) :
    q.Follows reader (mine.add n) := by
  have hplace : q.taken reader = (mine.add n).records.length := by
    rw [htaken, h.taken, Intake.length_add]
  cases n with
  | record r =>
      have hbegins := h.next_eq_record_iff.mp hnext
      refine ⟨hchannel ▸ hbegins, hplace, fun hstopped => ?_⟩
      -- a reader that was told to stop has got all records, and there is none behind them
      have hlong := hbegins.length_le
      rw [List.length_append, List.length_singleton, (h.stopped hstopped).2] at hlong
      exact absurd hlong (Nat.not_succ_le_self _)
  | stopped =>
      exact ⟨hchannel ▸ h.begins, hplace, fun _ => hchannel ▸ h.next_eq_stopped_iff.mp hnext⟩
  | blocked =>
      exact ⟨hchannel ▸ h.begins, hplace, fun hstopped => hchannel ▸ h.stopped hstopped⟩

end

/-! ## Several threads -/

variable [DecidableEq L] {event : Event ρ L}

/-- A step of one of several threads.  Each thread has an agenda of its own, so it depends on whose
turn it is what there is to do. -/
def Turn (p : Performance ρ L) (event : Event ρ L) (q : Performance ρ L) : Prop :=
  ∃ agenda, ({ p with agenda } : Performance ρ L).Step event q

/-- **Inversion of a step**, as one reader sees it. -/
theorem Turn.view (h : p.Turn event q) (reader : Text) : View reader p q event := by
  obtain ⟨agenda, hstep⟩ := h
  cases hstep with
  | @perform op rest _ result _ hperform =>
      have hview : View reader ({ p with agenda := rest } : Performance ρ L) q _ :=
        .of_perform hperform
      cases hview with
      | begin hchannel htaken => exact .begin hchannel htaken
      | ask hnext hchannel htaken => exact .ask hnext hchannel htaken
      | other hreader hlasts htaken => exact .other hreader hlasts htaken
  | @refuse op rest left f _ hperform _ =>
      have hnone : (Event.tried op (.error f)).reader? = none := reader?_of_refused hperform
      exact .other (by rw [hnone]; exact nofun) (Channel.Lasts.refl _) rfl
  | call _ => exact .other nofun (Channel.Lasts.refl _) rfl

/-- **What a step keeps.** -/
theorem Follows.turn (h : p.Follows reader mine) (hturn : p.Turn event q) :
    q.Follows reader (event.notes reader mine) := by
  cases hturn.view reader with
  | begin hchannel htaken =>
      rw [Event.notes, if_pos rfl]
      exact ⟨List.nil_prefix, htaken, nofun⟩
  | ask hnext hchannel htaken =>
      rw [Event.notes, if_pos rfl]
      exact h.ask hnext hchannel htaken
  | other hreader hlasts htaken =>
      rw [Event.notes_of_ne hreader]
      refine ⟨h.begins.trans hlasts.records, htaken.trans h.taken, fun hstopped => ?_⟩
      obtain ⟨hended, hall⟩ := h.stopped hstopped
      exact ⟨hlasts.ended hended, hall.trans (hlasts.closed hended).symm⟩

/-- A run of several threads, step by step, with everything that has happened. -/
inductive Interleaving (start : Performance ρ L) : List (Event ρ L) → Performance ρ L → Prop
  | refl : Interleaving start [] start
  | turn {events p e q} : Interleaving start events p → p.Turn e q →
      Interleaving start (events ++ [e]) q

variable {start : Performance ρ L} {events later : List (Event ρ L)}

/-- A chronicle is an interleaving, the one with a single thread. -/
theorem Chronicle.interleaving (h : Chronicle start events p) : Interleaving start events p := by
  induction h with
  | refl => exact .refl
  | @step _ p _ _ _ hstep ih => exact ih.turn ⟨p.agenda, hstep⟩

/-- The channel shows what was tried with it, however the readers come in between. -/
theorem Interleaving.shows {awaitsWriter : Bool} (h : Interleaving start events p)
    (hstart : start.channel.Shows awaitsWriter []) :
    p.channel.Shows awaitsWriter (attempts events) := by
  induction h with
  | refl => exact hstart
  | @turn _ p _ _ _ hturn ih =>
      obtain ⟨agenda, hstep⟩ := hturn
      have hbefore : ({ p with agenda } : Performance ρ L).channel.Shows awaitsWriter _ := ih
      rw [attempts_append]
      exact hbefore.step hstep

/-- Nothing is taken back while readers and operations take turns. -/
theorem Interleaving.lasts (h : Interleaving p later q) : p.channel.Lasts q.channel := by
  induction h with
  | refl => exact .refl _
  | turn _ hturn ih =>
      refine ih.trans ?_
      cases hturn.view [] with
      | begin hchannel _ => exact hchannel ▸ .refl _
      | ask _ hchannel _ => exact hchannel ▸ .refl _
      | other _ hlasts _ => exact hlasts

/-- **What an interleaving keeps.** -/
theorem Interleaving.follows (h : Interleaving p later q) (hp : p.Follows reader mine) :
    q.Follows reader (later.foldl (Event.notes reader) mine) := by
  induction h with
  | refl => exact hp
  | turn _ hturn ih =>
      rw [List.foldl_append]
      exact ih.turn hturn

/-- **After the end** a reader that does not begin again gets a record whenever it asks, as long as
there are any, and from then on it is told that there are no more. -/
theorem Interleaving.drain (h : Interleaving p later q) (hp : p.Follows reader mine)
    (hended : p.channel.ended = true) (hgoesOn : .startReading reader ∉ attempts later) :
    let now := later.foldl (Event.notes reader) mine
    now.records.length =
        min p.channel.records.length (mine.records.length + asked reader later) ∧
      (now.stopped = true ↔ mine.stopped = true ∨
        p.channel.records.length < mine.records.length + asked reader later) := by
  induction h with
  | refl =>
      have hshort := hp.begins.length_le
      simp only [asked, attempts, List.filterMap_nil, List.countP_nil, List.foldl_nil, Nat.add_zero]
      exact ⟨by omega, (or_iff_left (by omega)).symm⟩
  | @turn later p' event q hlater hturn ih =>
      rw [attempts_append, List.mem_append, not_or] at hgoesOn
      obtain ⟨hlength, hstopped⟩ := ih hgoesOn.1
      have hnow := hlater.follows hp
      have hlasts := hlater.lasts
      have hrecords := hlasts.closed hended
      rw [asked_append, List.foldl_append, List.foldl_cons, List.foldl_nil]
      generalize later.foldl (Event.notes reader) mine = now at hlength hstopped hnow ⊢
      cases hturn.view reader with
      | begin => exact absurd List.mem_cons_self hgoesOn.2
      | @ask n hnext =>
          rw [asked_readNext, Event.notes, if_pos rfl]
          show (now.add n).records.length = _ ∧ _
          rw [Intake.length_add]
          cases n with
          | record r =>
              have hmore := (hnow.next_eq_record_iff.mp hnext).length_le
              rw [List.length_append, List.length_singleton, hrecords] at hmore
              have hplace : now.records.length + 1 = min p.channel.records.length
                  (mine.records.length + (asked reader later + 1)) := by
                omega
              exact ⟨hplace, hstopped.trans (or_congr_right (by omega))⟩
          | stopped =>
              have hall := congrArg List.length (hnow.next_eq_stopped_iff.mp hnext).2
              rw [hrecords] at hall
              have hplace : now.records.length = min p.channel.records.length
                  (mine.records.length + (asked reader later + 1)) := by
                omega
              exact ⟨hplace, iff_of_true rfl (.inr (by omega))⟩
          | blocked =>
              have hopen := (hnow.next_eq_blocked_iff.mp hnext).1
              exact absurd ((hlasts.ended hended).symm.trans hopen) (by decide)
      | other hreader =>
          rw [asked_of_ne hreader, Event.notes_of_ne hreader]
          exact ⟨hlength, hstopped⟩

/-! ## Without the other readers -/

/-- A performance that differs from this one only in what there is to do and in where other
readers are. -/
def AgreesFor (reader : Text) (p q : Performance ρ L) : Prop :=
  ∃ agenda readers, q = { p with agenda, readers } ∧ q.taken reader = p.taken reader

omit [DecidableEq L] in
/-- Where other readers are does not matter for an operation. -/
theorem perform_of_taken {op : Operation ρ L} {result : Result ρ} {p' : Performance ρ L}
    {readers : List (Text × Nat)}
    (htaken : ({ p with readers } : Performance ρ L).taken reader = p.taken reader)
    (hop : op.reader? = none ∨ op.reader? = some reader)
    (hperform : p.perform op = .ok (p', result)) :
    ∃ readers', ({ p with readers } : Performance ρ L).perform op =
        .ok ({ p' with readers := readers' }, result) ∧
      ({ p' with readers := readers' } : Performance ρ L).taken reader = p'.taken reader := by
  obtain ⟨name, rfl, rfl, rfl⟩ | ⟨name, rfl, rfl, rfl⟩ | ⟨hnone, hreaders⟩ :=
    readers_of_perform hperform
  · obtain rfl : name = reader := by simpa [Operation.reader?] using hop
    refine ⟨(({ p with readers } : Performance ρ L).setTaken name 0).readers, rfl, ?_⟩
    rw [taken_setTaken_self]
    exact taken_setTaken_self { p with readers } name 0
  · obtain rfl : name = reader := by simpa [Operation.reader?] using hop
    generalize hq : ({ p with readers } : Performance ρ L) = q at htaken
    have hchannel : q.channel = p.channel := by rw [← hq]
    have hfst : (q.readNext name).1 =
        { (p.readNext name).1 with readers := (q.readNext name).1.readers } := by
      obtain hp | ⟨_, hp⟩ := readNext_fst p name <;>
        obtain hq' | ⟨_, hq'⟩ := readNext_fst q name <;> rw [hp, hq', ← hq] <;> rfl
    refine ⟨(q.readNext name).1.readers, ?_, ?_⟩
    · rw [Performance.perform, readNext_snd, readNext_snd, hchannel, htaken, hfst]
    · rw [← hfst, taken_readNext_self, taken_readNext_self, hchannel, htaken]
  · refine ⟨readers, by rw [perform_withReaders hnone, hperform]; rfl, ?_⟩
    rw [taken, taken, hreaders]
    exact htaken

/-- What another reader does is not noticed. -/
theorem AgreesFor.other (h : AgreesFor reader p q) {p' : Performance ρ L} (hturn : p.Turn event p')
    {name : Text} (hname : event.reader? = some name) (hne : name ≠ reader) :
    AgreesFor reader p' q := by
  have htaken' : p'.taken reader = p.taken reader := by
    cases hturn.view reader with
    | begin | ask => exact absurd (Option.some.inj hname).symm hne
    | other _ _ htaken => exact htaken
  obtain ⟨agenda, readers, rfl, htaken⟩ := h
  obtain ⟨_, hstep⟩ := hturn
  cases hstep with
  | perform _ hperform =>
      cases perform_effect hperform with
      | look => exact ⟨agenda, readers, rfl, htaken.trans htaken'.symm⟩
      | _ => cases hname
  | refuse _ hperform _ => cases hname.symm.trans (reader?_of_refused hperform)
  | call => cases hname

/-- What anybody else does can be done without the other readers, too. -/
theorem AgreesFor.turn (h : AgreesFor reader p q) {p' : Performance ρ L} (hturn : p.Turn event p')
    (hevent : event.reader? = none ∨ event.reader? = some reader) :
    ∃ q', q.Turn event q' ∧ AgreesFor reader p' q' := by
  obtain ⟨agenda, hstep⟩ := hturn
  obtain ⟨_, readers, rfl, htaken⟩ := h
  cases hstep with
  | @perform op rest _ result hdue hperform =>
      have hrest : ({ p with agenda := rest, readers } : Performance ρ L).taken reader =
          ({ p with agenda := rest } : Performance ρ L).taken reader := htaken
      obtain ⟨readers', hq, htaken'⟩ := perform_of_taken hrest hevent hperform
      exact ⟨_, ⟨agenda, .perform hdue hq⟩, p'.agenda, readers', rfl, htaken'⟩
  | @refuse op rest left f hdue hperform hleft =>
      have hrefused : ({ p with agenda := rest, readers } : Performance ρ L).perform op =
          .error f := by
        rw [perform_withReaders (reader?_of_refused hperform) { p with agenda := rest }, hperform]
        rfl
      exact ⟨_, ⟨agenda, .refuse hdue hrefused hleft⟩, left, readers, rfl, htaken⟩
  | call hagenda => exact ⟨_, ⟨agenda, .call hagenda⟩, _, readers, rfl, htaken⟩

/-- **Without the other readers** everything else can happen as it did, and the channel comes out
the same. -/
theorem Interleaving.exists_withoutOthers (h : Interleaving start events p) (reader : Text) :
    ∃ q, Interleaving start (withoutOthers reader events) q ∧ AgreesFor reader p q := by
  induction h with
  | refl => exact ⟨start, .refl, start.agenda, start.readers, rfl, rfl⟩
  | @turn events p event p' _ hturn ih =>
      obtain ⟨q, hq, hagrees⟩ := ih
      rw [withoutOthers, List.filter_append, List.filter_singleton]
      cases hname : event.reader? with
      | none =>
          obtain ⟨q', hq', hagrees'⟩ := hagrees.turn hturn (.inl hname)
          exact ⟨q', hq.turn hq', hagrees'⟩
      | some name =>
          by_cases hne : name = reader
          · obtain ⟨q', hq', hagrees'⟩ := hagrees.turn hturn (.inr (hne ▸ hname))
            rw [Option.all_some, hne, decide_eq_true rfl]
            exact ⟨q', hq.turn hq', hagrees'⟩
          · rw [Option.all_some, decide_eq_false hne, cond_false, List.append_nil]
            exact ⟨q, hq, hagrees.other hturn hname hne⟩

/-! ## Every moment -/

/-- How a channel serves a reader after all of this has happened. -/
structure Serves (start : Performance ρ L) (events : List (Event ρ L)) (p : Performance ρ L)
    (reader : Text) : Prop where
  /-- What the reader has got is how the records begin. -/
  begins : (intake reader events).records <+: p.channel.records
  /-- Without the other readers it would be the same. -/
  alone : ∃ q, Interleaving start (withoutOthers reader events) q ∧ q.channel = p.channel ∧
    intake reader (withoutOthers reader events) = intake reader events
  /-- The reader may always ask. -/
  asks : ∃ n q, p.Turn (.tried (.readNext reader) (.ok (.next n))) q
  /-- It gets the record behind those that it has got.  If it has got all of them, it is told that
  there are no more if the channel has ended, and otherwise it has to wait. -/
  next : ∀ outcome q, p.Turn (.tried (.readNext reader) outcome) q → ∃ n, outcome = .ok (.next n) ∧
    (∀ r, n = .record r ↔ (intake reader events).records ++ [r] <+: p.channel.records) ∧
    (n = .stopped ↔
      p.channel.ended = true ∧ (intake reader events).records = p.channel.records) ∧
    (n = .blocked ↔
      p.channel.ended = false ∧ (intake reader events).records = p.channel.records)
  /-- After it was told that there are no more, it gets nothing, unless it begins again. -/
  stops : (intake reader events).stopped = true →
    p.channel.ended = true ∧ (intake reader events).records = p.channel.records ∧
      ∀ later q, Interleaving p later q → .startReading reader ∉ attempts later →
        intake reader (events ++ later) = intake reader events
  /-- After the end it only has to ask often enough. -/
  drains : p.channel.ended = true → ∀ later q, Interleaving p later q →
    .startReading reader ∉ attempts later →
    p.channel.records.length < (intake reader events).records.length + asked reader later →
      (intake reader (events ++ later)).stopped = true
  /-- Whoever was told that there are no more has got the same, and so has who reads all at once. -/
  agrees : (intake reader events).stopped = true → ∀ later q, Interleaving p later q →
    (∀ other, (intake other (events ++ later)).stopped = true →
      (intake other (events ++ later)).records = (intake reader events).records) ∧
    ∀ outcome r, q.Turn (.tried .readAll outcome) r →
      outcome = .ok (.records (intake reader events).records)

/-- Who reads all at once after the end gets what the channel holds. -/
theorem Turn.readAll {outcome : Except Failure (Result ρ)}
    (h : p.Turn (.tried .readAll outcome) q) (hended : p.channel.ended = true) :
    outcome = .ok (.records p.channel.records) := by
  obtain ⟨_, hstep⟩ := h
  cases hstep with
  | perform _ hperform =>
      cases hperform
      rw [if_pos hended]
  | refuse _ hperform _ => cases hperform

/-- A reader that was told to stop gets nothing more. -/
theorem Interleaving.intake_of_stopped (h : Interleaving p later q) (hp : p.Follows reader mine)
    (hstopped : mine.stopped = true) (hgoesOn : .startReading reader ∉ attempts later) :
    later.foldl (Event.notes reader) mine = mine := by
  obtain ⟨hended, hall⟩ := hp.stopped hstopped
  obtain ⟨_, hstopped'⟩ := h.drain hp hended hgoesOn
  have hrecords := ((h.follows hp).stopped (hstopped'.mpr (.inl hstopped))).2
  have hclosed := h.lasts.closed hended
  exact Intake.ext (hrecords.trans (hclosed.trans hall.symm))
    ((hstopped'.mpr (.inl hstopped)).trans hstopped.symm)

/-- **Every reader gets every record once.**  Let a fresh channel be used in any way by listeners,
by any number of readers and by others, in several threads.  At every moment the channel holds the
records that were given to it before its end, and it serves every reader.  What was there once
remains.  To start operations one after the other is one way to use a channel. -/
theorem serves_every_reader (awaitsWriter : Bool) (script : Script ρ L) :
    let start : Performance ρ L := { channel := { awaitsWriter }, script }
    (∀ events p, Interleaving start events p →
      p.channel.Shows awaitsWriter (attempts events) ∧
      (∀ reader, Serves start events p reader) ∧
      ∀ later q, Interleaving p later q → p.channel.Lasts q.channel) ∧
    ∀ outer, ∃ events, Interleaving start events (start.startAll outer) ∧
      outer.Sublist (attempts events) := by
  intro start
  refine ⟨fun events p hp => ⟨hp.shows (Channel.shows_nil awaitsWriter), fun reader => ?_,
    fun _ _ hlater => hlater.lasts⟩, fun outer => ?_⟩
  · have hfollows (name : Text) : p.Follows name (intake name events) :=
      hp.follows (follows_fresh awaitsWriter script name)
    have hmine := hfollows reader
    refine ⟨hmine.begins, ?_, ?_, ?_, ?_, ?_, ?_⟩
    · obtain ⟨q, hq, agenda, readers, rfl, _⟩ := hp.exists_withoutOthers reader
      exact ⟨_, hq, rfl, intake_withoutOthers reader events⟩
    · exact ⟨_, _, [], .perform (.inr ⟨rfl, rfl⟩) rfl⟩
    · intro outcome q hturn
      cases hturn.view reader with
      | @ask n hnext =>
          refine ⟨n, rfl, fun r => ?_, ?_, ?_⟩ <;> rw [← hnext]
          · exact hmine.next_eq_record_iff
          · exact hmine.next_eq_stopped_iff
          · exact hmine.next_eq_blocked_iff
      | other hreader => exact absurd rfl hreader
    · intro hstopped
      obtain ⟨hended, hall⟩ := hmine.stopped hstopped
      refine ⟨hended, hall, fun later q hlater hgoesOn => ?_⟩
      rw [intake_append]
      exact hlater.intake_of_stopped hmine hstopped hgoesOn
    · intro hended later q hlater hgoesOn hoften
      rw [intake_append]
      exact (hlater.drain hmine hended hgoesOn).2.mpr (.inr hoften)
    · intro hstopped later q hlater
      obtain ⟨hended, hall⟩ := hmine.stopped hstopped
      have hclosed := hlater.lasts.closed hended
      refine ⟨fun other hother => ?_, fun outcome r hturn => ?_⟩
      · rw [intake_append] at hother ⊢
        have hthen := (hlater.follows (hfollows other)).stopped hother
        exact hthen.2.trans (hclosed.trans hall.symm)
      · rw [hturn.readAll (hlater.lasts.ended hended), hclosed, hall]
  · have hidle : start.agenda = [] := rfl
    obtain ⟨events, hevents, hsublist⟩ := exists_chronicle_startAll hidle outer
    exact ⟨events, hevents.interleaving, hsublist⟩

/-- One reader begins before the first record and another one between the two records.  The second
has got both and was told to stop while the first has still one to ask for; whoever is told to stop
later has got both, too, however late the reader has begun. -/
theorem serves_every_reader_beforeAndBetween :
    let start : Performance Nat Nat := { channel := {} }
    ∃ events p, Interleaving start events p ∧ p.channel.records = [1, 2] ∧
      intake ['e'] events = ⟨[1], false⟩ ∧ intake ['m'] events = ⟨[1, 2], true⟩ ∧
      (∀ outcome q, p.Turn (.tried (.readNext ['e']) outcome) q →
        outcome = .ok (.next (.record 2))) ∧
      (∀ later q, Interleaving p later q → .startReading ['e'] ∉ attempts later →
        asked ['e'] later = 2 → (intake ['e'] (events ++ later)).records = [1, 2]) ∧
      ∀ later q, Interleaving p later q → (intake ['l'] (events ++ later)).stopped = true →
        (intake ['l'] (events ++ later)).records = [1, 2] := by
  intro start
  have hperform {events : List (Event Nat Nat)} {p : Performance Nat Nat}
      (h : Interleaving start events p) (op : Operation Nat Nat) (result : Result Nat)
      (q : Performance Nat Nat)
      (hq : ({ p with agenda := [] } : Performance Nat Nat).perform op = .ok (q, result)) :
      Interleaving start (events ++ [.tried op (.ok result)]) q :=
    h.turn ⟨[], .perform (.inr ⟨rfl, rfl⟩) hq⟩
  have hearly := hperform .refl (.startReading ['e']) .done
    { channel := {}, readers := [(['e'], 0)] } rfl
  have hfirst := hperform hearly (.push 1) .done
    { channel := { records := [1] }, readers := [(['e'], 0)] } rfl
  have hmiddle := hperform hfirst (.startReading ['m']) .done
    { channel := { records := [1] }, readers := [(['m'], 0), (['e'], 0)] } rfl
  have hgot := hperform hmiddle (.readNext ['e']) (.next (.record 1))
    { channel := { records := [1] }, readers := [(['e'], 1), (['m'], 0)] } rfl
  have hsecond := hperform hgot (.push 2) .done
    { channel := { records := [1, 2] }, readers := [(['e'], 1), (['m'], 0)] } rfl
  let final : Channel Nat Nat := { records := [1, 2], ended := true, settled := true }
  have hended := hperform hsecond .finish .done
    { channel := final, readers := [(['e'], 1), (['m'], 0)] } rfl
  have hone := hperform hended (.readNext ['m']) (.next (.record 1))
    { channel := final, readers := [(['m'], 1), (['e'], 1)] } rfl
  have htwo := hperform hone (.readNext ['m']) (.next (.record 2))
    { channel := final, readers := [(['m'], 2), (['e'], 1)] } rfl
  have hstopped := hperform htwo (.readNext ['m']) (.next .stopped)
    { channel := final, readers := [(['m'], 2), (['e'], 1)] } rfl
  obtain ⟨hshows, hserves, _⟩ := (serves_every_reader false []).1 _ _ hstopped
  refine ⟨_, _, hstopped, hshows.records, rfl, rfl, ?_, ?_, ?_⟩
  · intro outcome q hturn
    obtain ⟨n, hn, hrecord, _⟩ := (hserves ['e']).next outcome q hturn
    rw [hn, (hrecord 2).mpr (List.prefix_refl _)]
  · intro later q hlater hgoesOn hasked
    have htold := (hserves ['e']).drains rfl later q hlater hgoesOn (by rw [hasked]; decide)
    exact ((hserves ['m']).agrees rfl later q hlater).1 ['e'] htold
  · intro later q hlater htold
    exact ((hserves ['m']).agrees rfl later q hlater).1 ['l'] htold

end Performance

end MarkupCatalog
