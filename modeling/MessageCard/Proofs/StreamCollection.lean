import MessageCard.Proofs.EventForest

/-! Runs from any stream of events, nested or not.  The runs of a list are collected event by
event, up to the end that closes the list or to the end of the stream, and formatting collects a
list of its own.  Every stream is taken to its end in this way, each event once, and what is
collected from it are the runs that are read from it.
-/

namespace MessageCard.Run

-----------------------------------------------------------------------------------------
-- Collecting the runs of a list
-----------------------------------------------------------------------------------------

/-- The events `taken` add to the runs of a list until these are all, with the events `rest`
left.  A list ends with the stream, or at the end that closes it if there is one; other ends are
passed over. Formatting collects a list of its own from the events behind its start, and the list
around it goes on behind those.
-/
inductive Collects : Option Closing → List Run → List Event → List Event → List Run → Prop
  | exhausted {closing : Option Closing} {runs : List Run}
    : Collects closing runs [] [] runs
  | closed {closing : Closing} {runs : List Run} {rest : List Event}
    : Collects (some closing) runs [.finish closing] rest runs
  | unmatched {closing : Option Closing} {ending : Closing} {runs final : List Run}
    {taken rest : List Event} (foreign : closing ≠ some ending)
    (more : Collects closing runs taken rest final)
    : Collects closing runs (.finish ending :: taken) rest final
  | single {closing : Option Closing} {event : Event} {runs final : List Run}
    {taken rest : List Event} (alone : event.IsSingle)
    (more : Collects closing (event.addTo runs) taken rest final)
    : Collects closing runs (event :: taken) rest final
  | paragraph {closing : Option Closing} {runs final : List Run} {taken rest : List Event}
    (more : Collects closing (broken runs) taken rest final)
    : Collects closing runs (.start .paragraph :: taken) rest final
  | transparent {closing : Option Closing} {runs final : List Run} {taken rest : List Event}
    (more : Collects closing runs taken rest final)
    : Collects closing runs (.start .other :: taken) rest final
  | formatting {closing : Option Closing} (kind : Formatting) {runs content final : List Run}
    {inside after rest : List Event}
    (within : Collects (some kind.closing) [] inside (after ++ rest) content)
    (more : Collects closing (runs ++ [kind.run content]) after rest final)
    : Collects closing runs (.start (.formatting kind) :: (inside ++ after)) rest final

/-- A list that no end closes goes on to the end of the stream. -/
theorem Collects.rest_eq_nil {runs final : List Run} {taken rest : List Event}
    (collects : Collects none runs taken rest final)
    : rest = [] := by
  generalize unclosed : (none : Option Closing) = closing at collects
  induction collects with
  | exhausted => rfl
  | closed => cases unclosed
  | unmatched _ _ ih => exact ih unclosed
  | single _ _ ih => exact ih unclosed
  | paragraph _ ih => exact ih unclosed
  | transparent _ ih => exact ih unclosed
  | formatting _ _ _ _ ih => exact ih unclosed

/-- Collecting comes to an end on every stream, by induction over its length: what formatting leaves
is shorter than the stream.
-/
theorem exists_collects (closing : Option Closing) (runs : List Run) (events : List Event)
    : ∃ taken rest final, taken ++ rest = events ∧ Collects closing runs taken rest final := by
  induction size : events.length using Nat.strongRecOn generalizing closing runs events with
  | _ size ih =>
  subst size
  cases events with
  | nil => exact ⟨[], [], runs, rfl, .exhausted⟩
  | cons event later =>
      have shorter (closing : Option Closing) (runs : List Run) {part : List Event}
          (bounded : part.length ≤ later.length) :=
        ih part.length (Nat.lt_succ_of_le bounded) closing runs part rfl
      have next (runs : List Run) := shorter closing runs (Nat.le_refl later.length)
      by_cases alone : event.IsSingle
      · obtain ⟨taken, rest, final, rfl, more⟩ := next (event.addTo runs)
        exact ⟨_, rest, final, rfl, .single alone more⟩
      cases event with
      | start container =>
          cases container with
          | formatting kind =>
              obtain ⟨inside, left, content, rfl, within⟩ :=
                shorter (some kind.closing) [] (Nat.le_refl later.length)
              have bounded : left.length ≤ (inside ++ left).length := by simp
              obtain ⟨after, rest, final, rfl, more⟩ :=
                shorter closing (runs ++ [kind.run content]) bounded
              refine ⟨_, rest, final, ?_, .formatting kind within more⟩
              rw [List.cons_append, List.append_assoc]
          | paragraph =>
              obtain ⟨taken, rest, final, rfl, more⟩ := next (broken runs)
              exact ⟨_, rest, final, rfl, .paragraph more⟩
          | other =>
              obtain ⟨taken, rest, final, rfl, more⟩ := next runs
              exact ⟨_, rest, final, rfl, .transparent more⟩
      | finish ending =>
          by_cases own : closing = some ending
          · subst own
            exact ⟨[.finish ending], later, runs, rfl, .closed⟩
          · obtain ⟨taken, rest, final, rfl, more⟩ := next runs
            exact ⟨_, rest, final, rfl, .unmatched own more⟩
      | _ => exact (alone trivial).elim

-----------------------------------------------------------------------------------------
-- Reading and collecting
-----------------------------------------------------------------------------------------

namespace Reading

/-- The runs of a reading, when no more events follow. -/
def result (reading : Reading) : List Run :=
  finish reading.current reading.outer

/-- Formatting that is open at the end of a stream is closed there. -/
theorem result_close (reading : Reading) : reading.close.result = reading.result := by
  obtain ⟨current, outer⟩ := reading
  cases outer <;> rfl

/-- The end that closes the innermost formatting. -/
def closing? (outer : List (Formatting × List Run)) : Option Closing :=
  outer.head?.map fun frame => frame.1.closing

theorem step_finish_of_ne {ending : Closing} {current : List Run}
    {outer : List (Formatting × List Run)} (foreign : closing? outer ≠ some ending)
    : step { current, outer } (.finish ending) = { current, outer } :=
  if_neg foreign

/-- What is collected for the innermost formatting is what it is closed with.  By induction over the
events collected; the list of formatting among them is that of one more frame.
-/
theorem foldl_collects (outer : List (Formatting × List Run)) {runs final : List Run}
    {taken rest : List Event} (collects : Collects (closing? outer) runs taken rest final)
    : ((taken ++ rest).foldl step { current := runs.reverse, outer }).result
      = (rest.foldl step (close { current := final.reverse, outer })).result := by
  generalize own : closing? outer = closing at collects
  induction collects generalizing outer with
  | exhausted => exact (result_close _).symm
  | closed =>
      rw [List.singleton_append, List.foldl_cons]
      congr 2
      exact if_pos own
  | unmatched foreign _ ih =>
      rw [List.cons_append, List.foldl_cons, step_finish_of_ne (own ▸ foreign)]
      exact ih outer own
  | single alone _ ih =>
      rw [List.cons_append, List.foldl_cons, step_single alone]
      exact ih outer own
  | paragraph _ ih =>
      rw [List.cons_append, List.foldl_cons, step, addParagraph_reverse]
      exact ih outer own
  | transparent _ ih =>
      rw [List.cons_append, List.foldl_cons, step]
      exact ih outer own
  | @formatting closing kind runs content final inside after rest _ _ within more =>
      rw [List.cons_append, List.foldl_cons, step, List.append_assoc, ← List.reverse_nil,
        within ((kind, runs.reverse) :: outer) rfl]
      have after := more outer own
      rw [List.reverse_append, List.reverse_singleton, List.singleton_append] at after
      rw [close, List.reverse_reverse]
      exact after

end Reading

theorem ofEvents_eq_result (events : List Event)
    : ofEvents events = (events.foldl Reading.step .empty).result :=
  rfl

/-- Only the runs that are read from a stream are collected from it. -/
theorem Collects.ofEvents_eq {events : List Event} {runs : List Run}
    (collects : Collects none [] events [] runs)
    : ofEvents events = runs := by
  have read := Reading.foldl_collects [] collects
  rw [List.append_nil] at read
  rw [ofEvents_eq_result]
  exact read.trans (List.reverse_reverse runs)

/-- The runs that are read from a stream are collected from all of its events. -/
theorem collects_ofEvents (events : List Event)
    : Collects none [] events [] (ofEvents events) := by
  obtain ⟨taken, rest, runs, rfl, collects⟩ := exists_collects none [] events
  obtain rfl := collects.rest_eq_nil
  rw [List.append_nil, collects.ofEvents_eq]
  exact collects

end MessageCard.Run
