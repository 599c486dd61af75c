import JournalSite.Proofs.Persona.JsonGrammar

/-!
# Writing a persona and reading it again

A persona in writing is a text of the shape that is read as this persona
(`personaText_toJson`), whatever characters its four texts are made of: each of
them is written so as to denote itself (`Json.isLiteral_writtenString`), and the
grammar finds the end of a string by its quote mark alone. So nothing is lost or
altered between writing and reading (**`Persona.ofJson?_toJson_round_trip`**).
-/

namespace JournalSite

open Json

/-- A member of a persona as it stands in writing. -/
def Persona.member (p : Persona) (f : PersonaField) : String × List Char :=
  (f.name, writtenString (p.get f))

theorem memberText_writtenMember (p : Persona) (f : PersonaField) :
    MemberText (p.member f) (p.writtenMember f) := by
  have htext := MemberText.mk (v := writtenString (p.get f)) blanks_nil
    (isLiteral_writtenString f.name) blanks_nil blanks_nil blanks_nil
  simp only [List.nil_append, List.append_nil] at htext
  exact htext

/-- Members in writing stand between commas, as long as there are any. -/
theorem joined_writtenMembers (p : Persona) {fs : List PersonaField} (hfs : fs ≠ []) :
    Joined MemberText (fs.map p.member)
      ((fs.map p.writtenMember).intersperse [',']).flatten := by
  induction fs with
  | nil => exact absurd rfl hfs
  | cons f fs ih =>
    cases fs with
    | nil =>
      have hlast := Joined.last (memberText_writtenMember p f)
      simpa using hlast
    | cons g fs => exact .more (memberText_writtenMember p f) (ih (List.cons_ne_nil g fs))

/-- The members in writing fit the persona. -/
theorem fits_members (p : Persona) : Fits p (PersonaField.all.map p.member) where
  field f := ⟨_, isLiteral_writtenString (p.get f), by cases f <;> rfl⟩
  other m hm hname := by
    obtain ⟨f, -, rfl⟩ := List.mem_map.1 hm
    exact absurd rfl (hname f)

/-- A persona in writing has the shape that is read as this persona. -/
theorem personaText_toJson (p : Persona) : PersonaText p p.toJson.toList := by
  have hjoined := joined_writtenMembers p (List.cons_ne_nil _ _ : PersonaField.all ≠ [])
  have htext := PersonaText.object blanks_nil hjoined (fits_members p) blanks_nil
  rwa [Persona.toJson, String.toList_ofList]

/-- **The round trip of a persona**: what is written is read as it was. So a text that is read as a
persona can be replaced by what is written of it: that text is read as the same persona, and is
written as itself. -/
theorem Persona.ofJson?_toJson_round_trip :
    (∀ p : Persona, Persona.ofJson? p.toJson = .ok p) ∧
    ∀ (text : String) (p : Persona), Persona.ofJson? text = .ok p →
      Persona.ofJson? p.toJson = .ok p ∧
        (Persona.ofJson? p.toJson).map Persona.toJson = .ok p.toJson := by
  have hread : ∀ p : Persona, Persona.ofJson? p.toJson = .ok p :=
    fun p => (personaText_toJson p).ofJson?_eq_ok
  refine ⟨hread, fun text p _ => ⟨hread p, ?_⟩⟩
  rw [hread p]
  rfl

end JournalSite
