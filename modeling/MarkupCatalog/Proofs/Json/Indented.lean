import MarkupCatalog.Proofs.Json.Roundtrip

/-!
# Reading what was printed over several lines

What is printed for the console, over several lines and in ASCII, is read as the same value as
what is printed on one line: `read?_indented`.  As before, the statements about values say what
the reader does up to the character behind a value; here this may be the line feed before a
closing bracket.
-/

namespace MarkupCatalog.Json

theorem isBlank_of_mem_newLine {depth : Nat} {c : Char} (h : c ∈ newLine depth) :
    isBlank c = true := by
  rcases List.mem_cons.mp h with rfl | hspace
  · rfl
  · rw [List.eq_of_mem_replicate hspace]
    rfl

/-- Blanks after a value are passed over. -/
theorem State.run_receive_blanks (v : Value) (stack : List Frame) {blanks : Text}
    (h : ∀ c ∈ blanks, isBlank c = true) (t : Text) :
    (receive v stack).run (blanks ++ t) = (receive v stack).run t := by
  refine run_blanks_of_stays (fun c hc => ?_) h t
  rw [feed_receive, feedAfter, if_pos hc]

/-- What is read of a value is all of it when the line feed comes. -/
theorem State.run_newLine {v : Value} {stack : List Frame} {s : State} {t u : Text} (depth : Nat)
    (h : s.run (t ++ ['\n']) = (receive v stack).feed '\n') :
    s.run (t ++ (newLine depth ++ u)) = (receive v stack).run u := by
  have hsplit : t ++ (newLine depth ++ u) =
      (t ++ ['\n']) ++ (List.replicate (2 * depth) ' ' ++ u) := by
    simp [newLine]
  have hspaces : ∀ c ∈ List.replicate (2 * depth) ' ', isBlank c = true := by
    intro c hc
    rw [List.eq_of_mem_replicate hc]
    rfl
  have hfeed : (receive v stack).feed '\n' = some (receive v stack) := by
    rw [feed_receive, feedAfter]
    rfl
  rw [hsplit, run_append, h, hfeed, Option.bind_some, run_receive_blanks v stack hspaces]

/-- No value begins with a blank or a closing bracket. -/
theorem indented_eq_cons (depth : Nat) (j : Json) :
    ∃ c t, j.indented depth = c :: t ∧ isBlank c = false ∧ c ≠ ']' := by
  cases j with
  | text t => exact ⟨'"', _, by rw [indented]; rfl, rfl, by decide⟩
  | number n =>
      obtain ⟨c, t, ht, hblank, hclose⟩ := (Json.number n).compact_eq_cons
      rw [compact] at ht
      exact ⟨c, t, by rw [indented, ht], hblank, hclose⟩
  | array items =>
      rw [indented, bracketed]
      split <;> exact ⟨'[', _, rfl, rfl, by decide⟩
  | object members =>
      rw [indented, bracketed]
      split <;> exact ⟨'\x7b', _, rfl, rfl, by decide⟩

/-- Parts on lines of their own, of which there is one at least. -/
theorem bracketed_cons (opening closing : Text) (depth : Nat) (part : Text) (parts : List Text) :
    bracketed opening closing depth (part :: parts) =
      opening ++ (newLine (depth + 1) ++
        (Text.joinWith (',' :: newLine (depth + 1)) (part :: parts) ++
          (newLine depth ++ closing))) := by
  simp [bracketed]

mutual

/-- **What was printed over several lines is read** up to the character behind it. -/
theorem run_indented {c : Char} (hc : isDelimiter c = true) (depth : Nat) (stack : List Frame) :
    ∀ j : Json, (State.mk .value stack).run (j.indented depth ++ [c]) =
      (State.receive j.value stack).feed c
  | .text t => by
      rw [indented, value, State.run_append, State.run_literal, Option.bind_some,
        State.run_singleton]
  | .number n => by
      rw [indented, value]
      exact State.run_ofNat hc
  | .array [] => by
      rw [indented, value, indentedItems, values, State.run_append]
      exact State.run_singleton _ c
  | .array (item :: items) => by
      have hitems := run_indentedItems depth stack [] (item :: items) (List.cons_ne_nil item items)
      obtain ⟨t, ht⟩ := Text.joinWith_cons (',' :: newLine (depth + 1)) (item.indented (depth + 1))
        (indentedItems (depth + 1) items)
      obtain ⟨d, u, hu, hblank, hclose⟩ := item.indented_eq_cons (depth + 1)
      have hstays : ∀ e, isBlank e = true →
          (State.mk .firstItem stack).feed e = some ⟨.firstItem, stack⟩ := by
        intro e he
        simp [State.feed, he]
      rw [indentedItems, ht, hu, List.cons_append, List.cons_append,
        ← run_firstItem_cons hblank hclose, ← List.cons_append, ← List.cons_append, ← hu, ← ht,
        ← State.run_blanks_of_stays hstays fun e he => isBlank_of_mem_newLine he] at hitems
      rw [indented, indentedItems, value, State.run_append, bracketed_cons, State.run_append]
      exact (congrArg (Option.bind · _) hitems).trans (State.run_singleton _ c)
  | .object [] => by
      rw [indented, value, indentedMembers, valuesOnto, State.run_append]
      exact State.run_singleton _ c
  | .object ((key, item) :: members) => by
      have hmembers := run_indentedMembers depth stack [] ((key, item) :: members)
        (List.cons_ne_nil _ _)
      obtain ⟨t, ht⟩ := Text.joinWith_cons (',' :: newLine (depth + 1))
        (literal .ascii key ++ ": " ++ item.indented (depth + 1))
        (indentedMembers (depth + 1) members)
      have hstays : ∀ e, isBlank e = true →
          (State.mk .firstMember stack).feed e = some ⟨.firstMember, stack⟩ := by
        intro e he
        simp [State.feed, he]
      rw [List.append_assoc, List.append_assoc] at ht
      rw [indentedMembers, List.append_assoc, ht, List.append_assoc, ← run_firstMember,
        ← List.append_assoc, ← ht,
        ← State.run_blanks_of_stays hstays fun e he => isBlank_of_mem_newLine he] at hmembers
      rw [indented, indentedMembers, value, State.run_append, bracketed_cons, State.run_append,
        List.append_assoc]
      exact (congrArg (Option.bind · _) hmembers).trans (State.run_singleton _ c)

/-- The items of an array, after those that are read. -/
theorem run_indentedItems (depth : Nat) (stack : List Frame) (done : List Value) :
    ∀ items : List Json, items ≠ [] → (State.mk .value (.array done :: stack)).run
        (Text.joinWith (',' :: newLine (depth + 1)) (indentedItems (depth + 1) items) ++
          (newLine depth ++ "]")) =
      some (State.receive (.array (done ++ values items)) stack)
  | [], h => absurd rfl h
  | [item], _ => by
      rw [indentedItems, indentedItems, Text.joinWith, values, values]
      exact State.run_newLine depth
        (run_indented (by decide) (depth + 1) (.array done :: stack) item)
  | item :: next :: items, _ => by
      have hitem := run_indented (c := ',') (by decide) (depth + 1) (.array done :: stack) item
      have hitems := run_indentedItems depth stack (done ++ [item.value]) (next :: items)
        (List.cons_ne_nil next items)
      have hblanks : ∀ c ∈ newLine (depth + 1), isBlank c = true :=
        fun c hc => isBlank_of_mem_newLine hc
      have hjoin : Text.joinWith (',' :: newLine (depth + 1))
            (indentedItems (depth + 1) (item :: next :: items)) ++ (newLine depth ++ "]") =
          (item.indented (depth + 1) ++ [',']) ++ (newLine (depth + 1) ++
            (Text.joinWith (',' :: newLine (depth + 1)) (indentedItems (depth + 1) (next :: items))
              ++ (newLine depth ++ "]"))) := by
        rw [indentedItems, indentedItems, Text.joinWith_cons_cons]
        simp
      rw [List.append_assoc, ← State.run_blanks hblanks] at hitems
      rw [hjoin, State.run_append, hitem]
      exact hitems

/-- The members of an object, after those that are read. -/
theorem run_indentedMembers (depth : Nat) (stack : List Frame) (done : List (Text × Value)) :
    ∀ members : List (Text × Json), members ≠ [] → (State.mk (.member done) stack).run
        (Text.joinWith (',' :: newLine (depth + 1)) (indentedMembers (depth + 1) members) ++
          (newLine depth ++ "\x7d")) =
      some (State.receive (.object (valuesOnto done members)) stack)
  | [], h => absurd rfl h
  | [(key, item)], _ => by
      have hitem := State.run_newLine (u := "\x7d") depth
        (run_indented (by decide) (depth + 1) (.object done key :: stack) item)
      rw [indentedMembers, indentedMembers, Text.joinWith, valuesOnto, valuesOnto,
        List.append_assoc]
      exact run_member hitem
  | (key, item) :: next :: members, _ => by
      have hitem := run_member (a := .ascii)
        (run_indented (c := ',') (by decide) (depth + 1) (.object done key :: stack) item)
      have hmembers := run_indentedMembers depth stack (Value.setMember key item.value done)
        (next :: members) (List.cons_ne_nil next members)
      have hstays : ∀ e, isBlank e = true →
          (State.mk (.member (Value.setMember key item.value done)) stack).feed e =
            some ⟨.member (Value.setMember key item.value done), stack⟩ := by
        intro e he
        simp [State.feed, he]
      have hjoin : Text.joinWith (',' :: newLine (depth + 1))
            (indentedMembers (depth + 1) ((key, item) :: next :: members)) ++
              (newLine depth ++ "\x7d") =
          (literal .ascii key ++ ": " ++ (item.indented (depth + 1) ++ [','])) ++
            (newLine (depth + 1) ++ (Text.joinWith (',' :: newLine (depth + 1))
              (indentedMembers (depth + 1) (next :: members)) ++ (newLine depth ++ "\x7d"))) := by
        obtain ⟨nextKey, nextItem⟩ := next
        rw [indentedMembers, indentedMembers, Text.joinWith_cons_cons]
        simp
      rw [← State.run_blanks_of_stays hstays fun e he => isBlank_of_mem_newLine he] at hmembers
      rw [hjoin, State.run_append, hitem]
      exact hmembers

end

/-- **What is printed for the console is read** as the value that was printed. -/
theorem read?_indented (j : Json) : read? (j.indented 0 ++ "\n") = some j.value := by
  have hrun := run_indented (c := '\n') (by decide) 0 [] j
  exact congrArg (Option.bind · State.result?) hrun

end MarkupCatalog.Json
