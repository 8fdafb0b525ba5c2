import EventLog.CommandLine
import EventLog.Proofs.Text.Digits

/-!
# Command lines for logs

For every kind of log, every format and every limit of 64 bits there is a command line that asks for
it: the name of the kind, the switch for the format, and the limit in digits.

* `Text.count?_digits`: a number of 64 bits is read from its digits.
* `CommandLine.parse_request`: what such a command line asks for.
-/

namespace EventLog

open Text

/-! ### Numbers in arguments -/

lemma Text.count?_digits {n : ℕ} (h : n < 0x10000000000000000) : count? (digits n) = some n := by
  have hdigit : ∀ c ∈ digits n, c.isDigit := fun c hc => isDigit_of_mem_digits hc
  unfold count?
  extract_lets ds
  -- there is no sign to take off
  have hds : ds = digits n := by
    simp only [ds]
    split
    · next cs hcs => exact absurd (hdigit '+' (hcs ▸ List.mem_cons_self)) (by decide)
    · rfl
  have hall : ds ≠ [] ∧ ds.all Char.isDigit := by
    rw [hds]
    exact ⟨digits_ne_nil n, List.all_eq_true.2 hdigit⟩
  rw [if_pos hall, hds, valueBelow?_eq _ (by decide), value_digits, if_pos h]

namespace CommandLine

lemma ofString_digits (n : ℕ) : Argument.ofString (String.ofList (digits n)) = .plain := by
  have hdash : ∀ cs, digits n ≠ '-' :: cs := fun cs hcs =>
    absurd (isDigit_of_mem_digits (hcs ▸ List.mem_cons_self : '-' ∈ digits n)) (by decide)
  unfold Argument.ofString
  rw [String.toList_ofList]
  split
  · next h => exact absurd h (hdash _)
  · next h => exact absurd h (hdash _)
  · next h => exact absurd h (hdash _)
  · rfl

/-! ### A whole command line -/

/-- The name of a kind of log. -/
def LogKind.name : LogKind → String
  | .errors => "errors"
  | .audit => "audit"

/-- The switches for a format. -/
def Format.switches : Format → List String
  | .text wide => if wide then ["--wide"] else []
  | .json => ["--json"]
  | .raw => ["--raw"]

/-- The options that the switches for a format set. -/
def Format.options : Format → LogOptions
  | .text wide => { LogOptions.empty with wide := wide }
  | .json => { LogOptions.empty with json := true }
  | .raw => { LogOptions.empty with raw := true }

/-- Arguments that ask for a log of this kind on the standard input, in this format and with this
limit for its lines. -/
def request (kind : LogKind) (format : Format) (limit : ℕ) : List String :=
  kind.name :: (format.switches ++ ["--max-line-bytes", String.ofList (digits limit)])

lemma add_switch {argument : String} (name : String) {p : LogPart} {o : LogOptions}
    (rest : List String) (harg : Argument.ofString argument = .long name none)
    (hhelp : name ≠ "help") (hswitch : p.log.switch? name = some o) :
    LogPart.add p (argument :: rest) = LogPart.add { p with log := o } rest := by
  rw [LogPart.add]
  simp [harg, hhelp, hswitch]

lemma add_value {argument name value : String} {p : LogPart} {common : Common}
    {rest rest' : List String} (harg : Argument.ofString argument = .long name none)
    (hhelp : name ≠ "help") (hswitch : p.log.switch? name = none)
    (hvalue : optionValue? none rest = some (value, rest'))
    (hset : p.common.set? name value = some common) :
    LogPart.add p (argument :: rest) = LogPart.add { p with common := common } rest' := by
  rw [LogPart.add]
  simp only [harg, hhelp, hswitch, imp_false, not_false_eq_true, not_true_eq_false]
  split
  · next h =>
    rw [hvalue] at h
    cases h
    rw [hset]
  · next h =>
    rw [hvalue] at h
    cases h

lemma add_switches (format : Format) (rest : List String) :
    LogPart.add ⟨.empty, .empty⟩ (format.switches ++ rest) =
      LogPart.add ⟨format.options, .empty⟩ rest := by
  cases format with
  | text wide =>
    cases wide with
    | false => rfl
    | true => exact add_switch "wide" rest (by decide +kernel) (by decide) rfl
  | json => exact add_switch "json" rest (by decide +kernel) (by decide) rfl
  | raw => exact add_switch "raw" rest (by decide +kernel) (by decide) rfl

lemma add_limit {limit : ℕ} (h : limit < 0x10000000000000000) (o : LogOptions) :
    LogPart.add ⟨o, .empty⟩ ["--max-line-bytes", String.ofList (digits limit)] =
      .ok ⟨o, none, some limit⟩ := by
  have hswitch : o.switch? "max-line-bytes" = none := by simp [LogOptions.switch?]
  have hvalue : optionValue? none [String.ofList (digits limit)] =
      some (String.ofList (digits limit), []) := if_pos (ofString_digits limit)
  have hset : Common.empty.set? "max-line-bytes" (String.ofList (digits limit)) =
      some ⟨none, some limit⟩ := by
    simp [Common.set?, Common.empty, count?_digits h]
  rw [add_value (by decide +kernel) (by decide) hswitch hvalue hset, LogPart.add]

/-- **A log of any kind can be asked for**, in any format and with any limit of 64 bits. -/
theorem parse_request (kind : LogKind) (format : Format) {limit : ℕ}
    (h : limit < 0x10000000000000000) :
    parse (request kind format limit) = .ok ⟨kind, none, format, ⟨none, some limit⟩, 0⟩ := by
  have hpart := (add_switches format _).trans (add_limit h format.options)
  have hjob : ∀ p : LogPart, p.log = format.options → p.common = ⟨none, some limit⟩ →
      RunPart.job ⟨0, .empty⟩ kind p = .ok ⟨kind, none, format, ⟨none, some limit⟩, 0⟩ := by
    rintro ⟨_, _⟩ rfl rfl
    cases format <;> rfl
  have hname : Argument.ofString kind.name = .plain ∧ kind? kind.name = some kind := by
    cases kind <;> decide +kernel
  rw [parse, request, RunPart.finish]
  simp only [hname.1, hname.2, hpart]
  exact hjob _ rfl rfl

end CommandLine

end EventLog
