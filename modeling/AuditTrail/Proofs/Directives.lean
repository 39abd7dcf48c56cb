import AuditTrail.Processor
import AuditTrail.Proofs.Config.Accepted
import AuditTrail.Proofs.Text

/-! The block of directives for a live log is text, which is cut into lines and trimmed. So it
points the engine at the log exactly if the path is one line without blanks at its ends. -/
namespace AuditTrail

namespace Directives

open Unicode (Tight trimChars isBlank)

variable {d : Directives} {name text line t : String}

/-! ### Lines -/

theorem linesOf_append (front back : String) :
    linesOf (front ++ "\n" ++ back) = linesOf front ++ linesOf back := by
  have whole : (front ++ "\n" ++ back).toList = front.toList ++ '\n' :: back.toList := by
    simp [String.toList_append]
  simp only [linesOf, whole, List.splitOn_append_cons_self, List.map_append, List.filter_append]

/-- A single line without blanks at its ends. -/
structure Single (text : String) : Prop where
  whole : '\n' ∉ text.toList
  tight : Tight text.toList

theorem linesOf_single (single : Single text) (counted : counts text.toList = true) :
    linesOf text = [text] := by
  rw [linesOf, List.splitOn_eq_singleton single.whole, List.map_singleton,
    Unicode.trimChars_eq_self single.tight, List.filter_cons_of_pos counted]
  simp

theorem single_of_mem (member : line ∈ linesOf text) : Single line := by
  simp only [linesOf, List.mem_map, List.mem_filter] at member
  obtain ⟨chars, ⟨⟨piece, cut, rfl⟩, -⟩, rfl⟩ := member
  constructor <;> rw [String.toList_ofList]
  · exact fun ends => not_mem_of_mem_splitOn cut (Unicode.mem_of_mem_trimChars ends)
  · exact Unicode.tight_trimChars piece

/-! ### Arguments -/

theorem arguments?_name (word : name.toList.all (!isBlank ·) = true) (rest : String) :
    arguments? name (name ++ " " ++ rest) = some (.ofList (trimChars rest.toList)) := by
  have whole : (name ++ " " ++ rest).toList = name.toList ++ ' ' :: rest.toList := by
    simp [String.toList_append]
  have taken : (name.toList ++ ' ' :: rest.toList).takeWhile (!isBlank ·) = name.toList := by
    rw [List.takeWhile_append_of_pos (List.all_eq_true.1 word), List.takeWhile_cons_of_neg (by decide),
      List.append_nil]
  have left : (name.toList ++ ' ' :: rest.toList).dropWhile (!isBlank ·) = ' ' :: rest.toList := by
    rw [List.dropWhile_append_of_pos (List.all_eq_true.1 word), List.dropWhile_cons_of_neg (by decide)]
  simp only [arguments?, whole, taken, left, if_true]

theorem single_of_arguments? (given : arguments? name line = some t) (single : Single line) :
    Single t := by
  simp only [arguments?] at given
  split at given
  · cases given
  next c rest left =>
  split at given
  · obtain rfl := Option.some.inj given
    constructor <;> rw [String.toList_ofList]
    · intro ends
      have within : '\n' ∈ line.toList.dropWhile (!isBlank ·) :=
        left ▸ List.mem_cons_of_mem c (Unicode.mem_of_mem_trimChars ends)
      exact single.whole ((List.dropWhile_suffix _).subset within)
    · exact Unicode.tight_trimChars rest
  · cases given

theorem get?_add (free : d.get? name = none) :
    (d.add text).get? name = (linesOf text).findSome? (arguments? name) := by
  rw [get?] at free
  rw [get?, add, List.findSome?_append, free, Option.none_or]

theorem single_of_get? (free : d.get? name = none) (given : (d.add text).get? name = some t) :
    Single t := by
  rw [get?_add free] at given
  obtain ⟨line, member, given⟩ := List.exists_of_findSome?_eq_some given
  exact single_of_arguments? given (single_of_mem member)

/-! ### The block -/

def naming (path : String) : String := "SecAuditLog " ++ path

def manner : List String :=
  ["SecAuditLogParts AFHKZ", "SecAuditLogFormat JSON", "SecAuditLogType Serial", "SecAuditEngine On"]

theorem linesOf_join (texts : List String) :
    linesOf (String.join (texts.map (· ++ "\n"))) = texts.flatMap linesOf := by
  induction texts with
  | nil => rfl
  | cons text rest ih => rw [List.map_cons, String.join_cons, linesOf_append, ih, List.flatMap_cons]

theorem linesOf_manner : manner.flatMap linesOf = manner := by
  have single : ∀ text ∈ manner, linesOf text = [text] := by
    intro text member
    have whole : ∀ text ∈ manner, '\n' ∉ text.toList ∧ trimChars text.toList = text.toList ∧
        counts text.toList = true := by decide
    obtain ⟨free, trimmed, counted⟩ := whole text member
    exact linesOf_single ⟨free, Unicode.trimChars_eq_self_iff.1 trimmed⟩ counted
  rw [List.flatMap_congr single, List.flatMap_singleton']

theorem linesOf_block (live : Path) : linesOf (block live) = linesOf (naming live.display) ++ manner := by
  have texts : block live = String.join ((naming live.display :: manner).map (· ++ "\n")) := rfl
  rw [texts, linesOf_join, List.flatMap_cons, linesOf_manner]

theorem linesOf_naming (single : Single text) (present : text.toList ≠ []) :
    linesOf (naming text) = [naming text] := by
  have spelled : (naming text).toList = "SecAuditLog ".toList ++ text.toList := String.toList_append
  refine linesOf_single ⟨?_, ?_⟩ ?_
  · rw [spelled, List.mem_append]
    rintro (lead | rest)
    · exact absurd lead (by decide)
    · exact single.whole rest
  · rw [spelled]
    exact Tight.cons_append (by decide) single.tight present
  · rw [spelled]
    rfl

theorem add_block {live : Path} (single : Single live.display) (present : live.display.toList ≠ []) :
    d.add (block live) = ⟨d.lines ++ naming live.display :: manner⟩ := by
  rw [add, linesOf_block, linesOf_naming single present]
  rfl

theorem get?_block {live : Path} (single : Single live.display) (present : live.display.toList ≠ [])
    (free : d.get? "SecAuditLog" = none) :
    (d.add (block live)).get? "SecAuditLog" = some live.display := by
  have first : arguments? "SecAuditLog" (naming live.display) = _ :=
    arguments?_name (by decide) live.display
  rw [Unicode.trimChars_eq_self single.tight, String.ofList_toList] at first
  rw [get?_add free, linesOf_block, linesOf_naming single present, List.findSome?_append,
    List.findSome?_singleton, first, Option.some_or]

end Directives

/-- The engine is directed to the path that is rotated, with its earlier directives and exactly five new ones,
if and only if the path is a single line without blanks at its ends. -/
theorem engine_pointed_at_live {σ : Type} (handler : Handler σ) {c : Config} (d : Directives)
    (accepted : c.validate = .ok ()) (valid : c.settings.validate = .ok ())
    (free : d.get? "SecAuditLog" = none) :
    ∃ p, Processor.build c.settings handler = .ok p ∧ p.settings.path = p.rotator.live ∧
      (Directives.Single c.auditLog.path → (p.direct d).lines =
        d.lines ++ Directives.naming c.auditLog.path :: Directives.manner) ∧
      (((p.direct d).get? "SecAuditLog").map Path.ofString = some p.rotator.live ↔
        Directives.Single c.auditLog.path) := by
  have shown : c.settings.path.display = c.auditLog.path := Utf8.decodeLossy_encode _
  have present : c.settings.path.display.toList ≠ [] := by
    rw [shown]
    exact (Config.validate_eq_ok.1 accepted).path_ne
  refine ⟨_, Processor.build_eq_ok valid, rfl, fun single => ?_, ?_, ?_⟩
  · rw [← shown] at single ⊢
    exact congrArg Directives.lines (Directives.add_block single present)
  · intro told
    obtain ⟨text, given, same⟩ := Option.map_eq_some_iff.1 told
    have spelled : text = c.auditLog.path := Utf8.encode_injective (congrArg Path.bytes same)
    exact spelled ▸ Directives.single_of_get? free given
  · intro single
    have given := Directives.get?_block (shown ▸ single) present free
    rw [shown] at given
    exact Option.map_eq_some_iff.2 ⟨_, given, rfl⟩

theorem engine_pointed_at_live_spaced :
    let c : Config := { auditLog := { path := "/var/waf log/audit # 1.log" } }
    let d : Directives := ⟨["SecRuleEngine On"]⟩
    c.validate = .ok () ∧ c.settings.validate = .ok () ∧ d.get? "SecAuditLog" = none ∧
      ∃ p : Processor Unit, Processor.build c.settings Violations.handler = .ok p ∧
        (p.direct d).lines = ["SecRuleEngine On", "SecAuditLog /var/waf log/audit # 1.log",
          "SecAuditLogParts AFHKZ", "SecAuditLogFormat JSON", "SecAuditLogType Serial",
          "SecAuditEngine On"] ∧
        ((p.direct d).get? "SecAuditLog").map Path.ofString = some p.rotator.live := by
  intro c d
  have accepted : c.validate = .ok () := by decide +kernel
  have valid : c.settings.validate = .ok () := by decide +kernel
  have free : d.get? "SecAuditLog" = none := by decide +kernel
  have single : Directives.Single c.auditLog.path :=
    ⟨by decide, Unicode.trimChars_eq_self_iff.1 (by decide)⟩
  obtain ⟨p, built, -, lines, told⟩ :=
    engine_pointed_at_live (σ := Unit) Violations.handler d accepted valid free
  exact ⟨accepted, valid, free, p, built, lines single, told.2 single⟩

/-- A trailing blank of a path is lost, and a line after a newline in a path becomes a directive. -/
theorem engine_not_pointed_at_live :
    (∃ c : Config, c.validate = .ok () ∧ c.settings.validate = .ok () ∧
      ∃ p : Processor Unit, Processor.build c.settings Violations.handler = .ok p ∧
        p.rotator.live = .ofString "/audit.log " ∧
        (p.direct .empty).get? "SecAuditLog" = some "/audit.log") ∧
    ∃ c : Config, c.validate = .ok () ∧ c.settings.validate = .ok () ∧
      ∃ p : Processor Unit, Processor.build c.settings Violations.handler = .ok p ∧
        (p.direct .empty).lines = ["SecAuditLog /audit.log", "SecRuleEngine Off",
          "SecAuditLogParts AFHKZ", "SecAuditLogFormat JSON", "SecAuditLogType Serial",
          "SecAuditEngine On"] := by
  constructor
  · refine ⟨{ auditLog := { path := "/audit.log " } }, by decide +kernel, by decide +kernel, _,
      Processor.build_eq_ok (by decide +kernel), rfl, ?_⟩
    decide +kernel
  · refine ⟨{ auditLog := { path := "/audit.log\nSecRuleEngine Off" } }, by decide +kernel,
      by decide +kernel, _, Processor.build_eq_ok (by decide +kernel), ?_⟩
    decide +kernel

end AuditTrail
