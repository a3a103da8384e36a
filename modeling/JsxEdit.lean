import JsxEdit.Number.Text
import JsxEdit.Text.Quoted
import JsxEdit.Pattern.Parse
import JsxEdit.Syntax.Module
import JsxEdit.Matcher
import JsxEdit.Make
import JsxEdit.Attribute.Spread
import JsxEdit.Attribute.Read
import JsxEdit.ClassName.Resolve
import JsxEdit.Import.Edit
import JsxEdit.Walk
import JsxEdit.Options
import JsxEdit.Proofs.Parts
import JsxEdit.Proofs.Unwrap
import JsxEdit.Proofs.CallQuery
import JsxEdit.Proofs.Elements
import JsxEdit.Proofs.Retagging
import JsxEdit.Proofs.ElementRenames
import JsxEdit.Proofs.ClassForm
import JsxEdit.Proofs.ClassText
import JsxEdit.Proofs.AttrFrame
import JsxEdit.Proofs.AttrSelection
import JsxEdit.Proofs.AttrNames
import JsxEdit.Proofs.ValidNames
import JsxEdit.Proofs.TrueForm
import JsxEdit.Proofs.ClassSteps
import JsxEdit.Proofs.ClassTemplate
import JsxEdit.Proofs.AttrOverride
import JsxEdit.Proofs.ImportNames
import JsxEdit.Proofs.SpecifierTables
import JsxEdit.Proofs.ImportBuilding
import JsxEdit.Proofs.AddNames
import JsxEdit.Proofs.LocalNames
import JsxEdit.Proofs.NamePlaces
import JsxEdit.Proofs.RemoveNames
import JsxEdit.Proofs.Pruning
import JsxEdit.Proofs.NamedQuery
import JsxEdit.Proofs.FragmentImport
import JsxEdit.Proofs.ImportGrammar
import JsxEdit.Proofs.SpreadObject
import JsxEdit.Proofs.TemplateReading
import JsxEdit.Proofs.TemplateValue
import JsxEdit.Proofs.AttrAddition
import JsxEdit.Proofs.AttrReplacement
import JsxEdit.Proofs.AttrReading
import JsxEdit.Proofs.AttrRenaming
import JsxEdit.Proofs.ClassMerge
import JsxEdit.Proofs.PatternLanguage
import JsxEdit.Proofs.CaseFolding
import JsxEdit.Proofs.NameGrammar
import JsxEdit.Proofs.AttrReaders
