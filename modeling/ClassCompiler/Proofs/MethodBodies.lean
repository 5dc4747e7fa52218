import ClassCompiler.Proofs.ClassShape
import ClassCompiler.Proofs.Indentation
import Mathlib.Data.List.Infix

/-! Bodies of methods. A body is the block of its template one level further in: the same types, and
the same lines behind four more spaces. -/

namespace ClassCompiler
open Text

def Text.shifted (line : String) : String := if line = "" then "" else "    " ++ line

namespace Code

/-- No unindent goes below the level at which the block starts. -/
def WellIndented (code : Code) : Prop :=
  ∀ before, before <+: code.tokens → before.count .unindent ≤ before.count .indent

namespace Row

def deeper (extra : Nat) (row : Row) : Row := { row with level := row.level + extra }

theorem laid_deeper (row : Row) :
    String.ofList (row.deeper 1).laid = shifted (String.ofList row.laid) := by
  by_cases blank : row.letters = []
  · simp [laid, deeper, shifted, blank]
  · have spaces : margin (row.level + 1) = "    ".toList ++ margin row.level := by
      rw [margin, Nat.mul_add, Nat.add_comm, List.replicate_add]
      rfl
    have filled : String.ofList (margin row.level ++ row.letters) ≠ "" := by simp [blank]
    have margined : (row.deeper 1).laid = margin (row.level + 1) ++ row.letters := if_neg blank
    rw [margined, spaces, laid, if_neg blank, shifted, if_neg filled, List.append_assoc,
      String.ofList_append, String.ofList_toList]

end Row

theorem rows_chars_deeper {level extra : Nat} {rest : List Glyph}
    (same : rows (level + extra) rest = (rows level rest).map (.deeper extra)) (text : List Char) :
    rows (level + extra) (text.map .char ++ rest) =
      (rows level (text.map .char ++ rest)).map (.deeper extra) := by
  induction text with
  | nil => exact same
  | cons c text ih =>
    rw [List.map_cons, List.cons_append]
    by_cases ended : c = '\n'
    · subst ended
      rw [rows_newline, rows_newline, ih]
      rfl
    · obtain ⟨row, more, begun⟩ := exists_rows level (text.map .char ++ rest)
      rw [rows_inside ended, rows_inside ended, ih, begun]
      rfl

/-- Tokens that never unindent below where they start have their rows that much further in. -/
theorem rows_deeper {tokens : List Token} {level : Nat} (extra : Nat)
    (covered : ∀ before, before <+: tokens →
      before.count .unindent ≤ level + before.count .indent) :
    rows (level + extra) (tokens.flatMap Token.glyphs) =
      (rows level (tokens.flatMap Token.glyphs)).map (.deeper extra) := by
  induction tokens generalizing level with
  | nil => rfl
  | cons token tokens ih =>
    have after (before : List Token) (begins : before <+: tokens) :
        (token :: before).count .unindent ≤ level + (token :: before).count .indent :=
      covered _ (List.cons_prefix_cons.mpr ⟨rfl, begins⟩)
    rw [List.flatMap_cons]
    cases token with
    | text s => exact rows_chars_deeper (ih fun before begins => by simpa using after before begins) _
    | type t => exact rows_chars_deeper (ih fun before begins => by simpa using after before begins) _
    | indent =>
      have further : rows (level + 1 + extra) (tokens.flatMap Token.glyphs) =
          (rows (level + 1) (tokens.flatMap Token.glyphs)).map (.deeper extra) :=
        ih fun before begins => by
          have bound := after before begins
          simp at bound
          omega
      rwa [Nat.add_right_comm] at further
    | unindent =>
      -- The level is positive here, so the shift back is the same at both levels.
      have above : 1 ≤ level := by simpa using after [] List.nil_prefix
      have further : rows (level - 1 + extra) (tokens.flatMap Token.glyphs) =
          (rows (level - 1) (tokens.flatMap Token.glyphs)).map (.deeper extra) :=
        ih fun before begins => by
          have bound := after before begins
          simp at bound
          omega
      rwa [← Nat.sub_add_comm above] at further

theorem toList_render_indented (code : Code) :
    (Code.indent ++ code ++ Code.unindent).render.toList = layout 1 true code.glyphs := by
  have glyphs : (Code.indent ++ code ++ Code.unindent).glyphs =
      .indent :: (code.glyphs ++ [.unindent]) := by
    rw [glyphs_append, glyphs_append]
    rfl
  rw [toList_render, glyphs, layout_indent, layout_append]
  exact List.append_nil _

theorem lines_indented {code : Code} (wellIndented : code.WellIndented) :
    lines (Code.indent ++ code ++ Code.unindent).render = (lines code.render).map shifted := by
  have covered (before : List Token) (begins : before <+: code.tokens) :
      before.count .unindent ≤ 0 + before.count .indent := by
    rw [Nat.zero_add]
    exact wellIndented before begins
  have deeper : rows 1 code.glyphs = (rows 0 code.glyphs).map (.deeper 1) := rows_deeper 1 covered
  obtain ⟨row, more, same⟩ := exists_rows 1 code.glyphs
  rw [lines, toList_render_indented, (splitOn_layout same).1, ← List.map_cons, ← same, deeper,
    lines_render, List.map_map, List.map_map, List.map_map]
  exact List.map_congr_left fun row _ => row.laid_deeper

theorem types_indented (code : Code) :
    (Code.indent ++ code ++ Code.unindent).types = code.types := by
  rw [types_append, types_append]
  exact List.append_nil _

end Code

namespace Compiler

/-- The body of a method has the types of the block that its template makes, in the same order.
Unless an unindent goes below the start of that block, the lines of the body are those of the block
with four spaces in front of each that is not empty. -/
theorem method_body_is_shifted {compiler : Compiler} {model : MethodModel} {method : MethodDef}
    (made : compiler.method model = .ok method) :
    ∃ arguments block, compiler.arguments model.bodyArguments = .ok arguments ∧
      Code.ofTemplate model.body arguments = .ok block ∧
      method.body.types = block.types ∧
      (block.WellIndented → lines method.body.render = (lines block.render).map shifted) := by
  obtain ⟨arguments, block, resolved, filled, body⟩ := (method_shape made).body
  refine ⟨arguments, block, resolved, filled, ?_, ?_⟩
  · rw [body, Code.types_indented]
  · intro wellIndented
    rw [body, Code.lines_indented wellIndented]

def widget : TypeName := .named { package := "p", outermost := "Widget" }

def forwards : MethodModel :=
  { name := "forward", returnType := "void", body := "if ($L) \x7b\n$>$T.run();\n\n$<\x7d\n",
    bodyArguments := [.literal "ok", .type "Widget"] }

def forwarding : Code :=
  { tokens := [.text "if (ok) \x7b\n", .indent, .type widget, .text ".run();\n\n", .unindent,
      .text "\x7d\n"] }

theorem forwarding_is_shifted : ∃ method, (forPackage "p").method forwards = .ok method ∧
    forwarding.WellIndented ∧ method.body.types = [widget] ∧
    lines forwarding.render = ["if (ok) \x7b", "    p.Widget.run();", "", "\x7d", ""] ∧
    lines method.body.render =
      ["    if (ok) \x7b", "        p.Widget.run();", "", "    \x7d", ""] := by
  have succeeds : ((forPackage "p").method forwards).isOk = true := by decide +kernel
  obtain ⟨method, made⟩ : ∃ method, (forPackage "p").method forwards = .ok method := by
    cases made : (forPackage "p").method forwards with
    | error fault =>
      rw [made] at succeeds
      cases succeeds
    | ok method => exact ⟨method, rfl⟩
  obtain ⟨arguments, block, resolved, filled, types, shifts⟩ := method_body_is_shifted made
  have read : (forPackage "p").arguments forwards.bodyArguments =
      .ok [.literal "ok", .type widget] := rfl
  obtain rfl := Except.ok.inj (read.symm.trans resolved)
  have expected : (Code.ofTemplate forwards.body [.literal "ok", .type widget]).toOption =
      some forwarding := by
    decide +kernel
  rw [filled] at expected
  obtain rfl := Option.some.inj expected
  have wellIndented : forwarding.WellIndented := by
    have all : ∀ before ∈ forwarding.tokens.inits,
        before.count .unindent ≤ before.count .indent := by
      decide +kernel
    exact fun before begins => all before ((List.mem_inits _ _).mpr begins)
  have plain : lines forwarding.render =
      ["if (ok) \x7b", "    p.Widget.run();", "", "\x7d", ""] := by
    decide +kernel
  refine ⟨method, made, wellIndented, types, plain, ?_⟩
  rw [shifts wellIndented, plain]
  decide +kernel

end Compiler

end ClassCompiler
