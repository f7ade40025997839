import ProseLinter.Proofs.Rule.Markers
import ProseLinter.Proofs.Rule.TrailingSpaces
import ProseLinter.Rule.Bundled

/-!
# Proofs/Rule/Bundled — what the bundled rules say

The bundled rules look at lines, and what they quote in a message is a part of the line that they
look at.  A line has no line feed in it, so there is none in a message either, whatever words a rule
is told to look for (`BundledRule.newline_not_mem_of_mem_run`).
-/

namespace ProseLinter

variable {document : Document} {config ruleConfig : Value} {name : String}
  {own : List LintMessage} {m : LintMessage}

namespace Markers

/-- A message of the rule is that of an occurrence in a line. -/
theorem exists_hit_of_mem_run
    (h : Lint.run document config [configured name ruleConfig] = .ok own) (hm : m ∈ own) :
    ∃ severity words, ∃ n ∈ (Document.nodes document.text).tail,
      ∃ hit ∈ occurrencesIn words n, m = messageOn name severity n hit := by
  obtain ⟨severity, handlers, hseverity, hrule⟩ := Lint.exists_severity_of_run h
  obtain ⟨words, hwords, -⟩ := bind_eq_ok_iff.mp hrule
  by_cases hoff : severity = .off
  · obtain rfl := Except.ok.inj (h.symm.trans (run_off (hoff ▸ hseverity) hwords))
    exact absurd hm List.not_mem_nil
  · obtain rfl := Except.ok.inj (h.symm.trans (run_eq hseverity hwords hoff))
    obtain ⟨n, hn, hm⟩ := List.mem_flatMap.mp hm
    obtain ⟨hit, hhit, rfl⟩ := List.mem_map.mp hm
    exact ⟨severity, words, n, hn, hit, hhit, rfl⟩

/-- **What is said about an occurrence has no line feed in it**: the word and the line that are
quoted have none. -/
theorem newline_not_mem_message {text : List Char} {words : List (List Char)} {n : TextNode}
    {hit : ℕ × List Char} (hn : n ∈ (Document.nodes text).tail) (hhit : hit ∈ occurrencesIn words n) :
    '\n' ∉ message hit.2 n.raw := by
  obtain ⟨k, ret, hrow⟩ := Document.exists_showsRow_of_mem hn
  have hraw : '\n' ∉ n.raw := hrow.isLine.feed_not_mem
  have hword : '\n' ∉ hit.2 := fun hmem => hraw ((infix_of_mem_occurrences hhit).subset hmem)
  have hline : '\n' ∉ Text.strip Text.isBlank n.raw := fun hmem => hraw (Text.mem_of_mem_strip hmem)
  delta message
  simp only [List.mem_append, not_or]
  exact ⟨⟨⟨⟨by decide, hword⟩, by decide⟩, hline⟩, by decide⟩

end Markers

/-- **What a bundled rule says is a text without line feeds.** -/
theorem BundledRule.newline_not_mem_of_mem_run {b : BundledRule}
    (h : Lint.run document config [⟨name, b.rule, ruleConfig⟩] = .ok own) (hm : m ∈ own) :
    ∃ cs, m.message = .ofChars cs ∧ '\n' ∉ cs := by
  cases b with
  | markers =>
    obtain ⟨severity, words, n, hn, hit, hhit, rfl⟩ := Markers.exists_hit_of_mem_run h hm
    exact ⟨_, rfl, Markers.newline_not_mem_message hn hhit⟩
  | trailingSpaces =>
    obtain ⟨severity, n, -, rfl⟩ := TrailingSpaces.exists_flagged_of_mem_run h hm
    exact ⟨"Trailing whitespace".toList, rfl, by decide⟩

end ProseLinter
