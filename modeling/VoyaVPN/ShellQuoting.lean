import VoyaVPN.PrivilegeLauncher
import VoyaVPN.ShellWords

/-! The two ways in which an argument is quoted for a shell, and the words the shell reads. -/
namespace ShellQuoting

open PrivilegeLauncher ShellWords

/-- The quoting of the autostart entries, which quotes every argument. -/
def shellSingleQuote (value : List Char) : List Char := '\'' :: escapeQuotes value ++ ['\'']

theorem isPlain_safe {char : Char} (h : isSafeShellChar char = true) : isPlain char = true := by
  have hspecial : ∀ special : Char, isSafeShellChar special = false → char ≠ special := by
    rintro special hspecial rfl
    rw [h] at hspecial
    cases hspecial
  have hnot : ∀ specials : List Char, specials.all (fun special =>
    !isSafeShellChar special) = true →
      specials.contains char = false := by
    intro specials hall
    rw [Bool.eq_false_iff]
    intro hmem
    rw [List.contains_iff_mem] at hmem
    have hunsafe := List.all_eq_true.mp hall char hmem
    rw [h] at hunsafe
    cases hunsafe
  have hoperator : isOperator char = false := hnot _ (by decide)
  have hexpanded : isExpanded char = false := hnot _ (by decide)
  have hblank : isBlank char = false := by
    rw [isBlank, Bool.or_eq_false_iff, decide_eq_false_iff_not, decide_eq_false_iff_not]
    exact ⟨hspecial _ (by decide), hspecial _ (by decide)⟩
  rw [isPlain, hblank, hoperator, hexpanded]
  simp [hspecial '\x00' (by decide), hspecial '\'' (by decide), hspecial '\x22' (by decide),
    hspecial '\\' (by decide)]

/-- From between the quotes: a quote of the value is written out of them, behind a backslash. -/
theorem scan_escapeQuotes {value : List Char} (hnull : '\x00' ∉ value) (current : Option Word)
    (before : List Char) (rest : List Char) :
    scan { quoting := .single, current := some (grow current true before) }
        (escapeQuotes value ++ '\'' :: rest) =
      scan { current := some (grow current true (before ++ value)) } rest := by
  induction value generalizing before with
  | nil =>
    rw [List.append_nil, escapeQuotes, List.flatMap_nil, List.nil_append,
      scan_silent (step_quote .single (.inr rfl))]
    rfl
  | cons char value ih =>
    rw [List.mem_cons, not_or] at hnull
    have hvalue : before ++ char :: value = before ++ [char] ++ value := by
      rw [List.append_assoc, List.singleton_append]
    by_cases hquote : char = '\''
    · subst hquote
      have htext : escapeQuotes ('\'' :: value) ++ '\'' :: rest =
          '\'' :: '\\' :: '\'' :: '\'' :: (escapeQuotes value ++ '\'' :: rest) := rfl
      rw [htext, scan_silent (step_quote .single (.inr rfl)), if_neg (by decide),
        scan_silent step_backslash, scan_silent (step_escaped (by decide) (by decide)),
        scan_silent (step_quote .bare (.inl rfl)), if_pos rfl, grow_grow, grow_grow,
        List.append_nil, Bool.or_true, Bool.or_true, hvalue]
      exact ih hnull.2 (before ++ ['\''])
    · have htext : escapeQuotes (char :: value) ++ '\'' :: rest =
          char :: (escapeQuotes value ++ '\'' :: rest) := by
        simp [escapeQuotes, hquote]
      rw [htext, scan_silent (step_single (Ne.symm hnull.1) hquote), grow_grow, Bool.or_true,
        hvalue]
      exact ih hnull.2 (before ++ [char])

theorem adds_shellSingleQuote {value : List Char} (hnull : '\x00' ∉ value) :
    Adds (shellSingleQuote value) value true := by
  intro current after rest
  have hquoted := scan_escapeQuotes hnull current [] rest
  rw [List.nil_append] at hquoted
  rw [shellSingleQuote, List.append_assoc, List.cons_append,
    scan_silent (step_quote .bare (.inl rfl)), if_pos rfl, List.singleton_append, hquoted]

theorem adds_quoteShellArg {value : List Char} (hnull : '\x00' ∉ value) :
    ∃ quoted, Adds (quoteShellArg value) value quoted := by
  rw [quoteShellArg]
  split
  · rename_i hempty
    rw [List.isEmpty_iff.mp hempty]
    exact ⟨true, adds_shellSingleQuote List.not_mem_nil⟩
  · rename_i hempty
    split
    · rename_i hsafe
      refine ⟨false, adds_plain (fun hnil => hempty (List.isEmpty_iff.mpr hnil)) ?_⟩
      exact fun char hchar => isPlain_safe (List.all_eq_true.mp hsafe char hchar)
    · exact ⟨true, adds_shellSingleQuote hnull⟩

/-- The texts that the two functions write for an argument. -/
def Quoted (text value : List Char) : Prop :=
  text = quoteShellArg value ∨ text = shellSingleQuote value

theorem Quoted.adds {text value : List Char} (h : Quoted text value) (hnull : '\x00' ∉ value) :
    ∃ quoted, Adds text value quoted := by
  rcases h with rfl | rfl
  · exact adds_quoteShellArg hnull
  · exact ⟨true, adds_shellSingleQuote hnull⟩

/-- A quoted argument is one word, of the value of the argument, wherever it stands in a text; and
arguments that are quoted and joined by spaces are the arguments of the command line. -/
theorem quoted_arguments (arguments : List (List Char))
    (hnull : ∀ argument ∈ arguments, '\x00' ∉ argument) :
    (∀ argument ∈ arguments, ∀ text, Quoted text argument →
      (∃ quoted, tokens text = some [.word ⟨argument, quoted⟩]) ∧
        ∃ quoted, Adds text argument quoted) ∧
      ∀ texts, List.Forall₂ Quoted texts arguments →
        splitWords ([' '].intercalate texts) = some arguments := by
  constructor
  · intro argument hargument text htext
    obtain ⟨quoted, hadds⟩ := htext.adds (hnull argument hargument)
    exact ⟨⟨quoted, hadds.ends⟩, quoted, hadds⟩
  · intro texts htexts
    apply splitWords_join
    induction htexts with
    | nil => exact .nil
    | @cons text argument texts arguments hfirst _ ih =>
      refine .cons (hfirst.adds (hnull argument List.mem_cons_self)) (ih ?_)
      exact fun other hother => hnull other (List.mem_cons_of_mem _ hother)

theorem quoted_arguments_kill :
    splitWords ([' '].intercalate
      [quoteShellArg "kill".toList, quoteShellArg "it's\n$(me)".toList, shellSingleQuote []]) =
        some ["kill".toList, "it's\n$(me)".toList, []] := by
  refine (quoted_arguments _ ?_).2 _ (.cons (.inl rfl) (.cons (.inl rfl) (.cons (.inr rfl) .nil)))
  decide

end ShellQuoting
