import ScanQuery.Codec.Query
import ScanQuery.Proofs.Json.Decoding

/-!
Queries and their JSON form. Each part of a query is decoded from what it is encoded as: names are
told apart, a choice is known by the name of its case, and a record has its fields under names of
their own. A severity is looked up by its code, where every unknown code stands for the lowest
level, but the codes of the other levels are known.
-/

namespace ScanQuery

open Json (Undoes)

theorem Severity.ofJson?_undoes : Undoes ofJson? toJson := fun level =>
  congrArg some (ofCode_code level)

namespace Query

theorem Key.ofJson?_undoes : Undoes Key.ofJson? Key.toJson := by
  intro key
  cases key <;> decide

theorem Comparison.ofJson?_undoes : Undoes Comparison.ofJson? Comparison.toJson := by
  intro comparison
  cases comparison <;> decide

theorem Unsupported.ofJson?_undoes : Undoes Unsupported.ofJson? Unsupported.toJson := by
  intro why
  cases why with
  | missingOperator => simp [Unsupported.toJson, Unsupported.ofJson?]
  | unknownKey keyword => simp [Unsupported.toJson, Unsupported.ofJson?]
  | ordinalOperator key comparison =>
    simp [Unsupported.toJson, Unsupported.ofJson?, Key.ofJson?_undoes key,
      Comparison.ofJson?_undoes comparison]

theorem Condition.ofJson?_undoes : Undoes Condition.ofJson? Condition.toJson := by
  intro condition
  cases condition with
  | severity comparison levels =>
    simp [Condition.toJson, Condition.ofJson?, Comparison.ofJson?_undoes comparison,
      Severity.ofJson?_undoes.list levels]
  | unsupported why =>
    simp [Condition.toJson, Condition.ofJson?, Unsupported.ofJson?_undoes why]
  | pluginId values | pluginName values | port values | ip values =>
    simp [Condition.toJson, Condition.ofJson?, Json.texts_undoes values]

theorem Clause.ofJson?_undoes : Undoes Clause.ofJson? Clause.toJson := by
  intro c
  simp [Clause.toJson, Clause.ofJson?, Condition.ofJson?_undoes c.condition]

theorem groupOfJson?_undoes : Undoes groupOfJson? groupToJson := by
  intro clauses
  simp [groupToJson, groupOfJson?, Clause.ofJson?_undoes.list clauses]

theorem ofJson?_undoes : Undoes ofJson? toJson := by
  intro q
  simp [toJson, ofJson?, groupOfJson?_undoes.list q.groups]

end Query

end ScanQuery
