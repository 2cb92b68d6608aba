/-!
# The last event of what happened

Facts about every point of a history are kept by one event more: the point is the last one, or it
was there before. For a point between two events that is `List.prefix_concat_iff`.
-/
namespace StreamMux

/-- An event of a history with one event more is the last, or one of those before it. -/
theorem split_snoc {α : Type} {past before after : List α} {last event : α}
    (split : past ++ [last] = before ++ event :: after) :
    (before = past ∧ event = last) ∨ ∃ rest, past = before ++ event :: rest := by
  have cut : before ++ [event] <+: past ++ [last] := ⟨after, by simp [split]⟩
  rcases List.prefix_concat_iff.mp cut with whole | ⟨rest, earlier⟩
  · obtain ⟨same, one⟩ := List.append_inj' whole rfl
    exact .inl ⟨same, (List.cons.inj one).1⟩
  · exact .inr ⟨rest, by simp [← earlier]⟩

end StreamMux
