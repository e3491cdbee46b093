import ViewTemplate.Diagnostic.Component
import ViewTemplate.Diagnostic.Function
import ViewTemplate.Generator
import ViewTemplate.Json.Decode
import ViewTemplate.Json.Encode
import ViewTemplate.Proofs.Destructuring
import ViewTemplate.Proofs.Syntax.Same
import ViewTemplate.Settings.Reader
import ViewTemplate.Proofs.Resolution
import ViewTemplate.Proofs.Hiding
import ViewTemplate.Proofs.Render.Matching
import ViewTemplate.Proofs.Render.Agreement
import ViewTemplate.Proofs.Render.Substitution
import ViewTemplate.Proofs.Rebinding.Scope
import ViewTemplate.Proofs.Diagnostic.Depth
import ViewTemplate.Proofs.Render.Sites
import ViewTemplate.Proofs.Render.Shown
import ViewTemplate.Proofs.Render.Encounters
import ViewTemplate.Proofs.Blocks
import ViewTemplate.Proofs.Instance
import ViewTemplate.Proofs.Globals
import ViewTemplate.Proofs.Replaced.Basic
import ViewTemplate.Proofs.Replaced.Names
import ViewTemplate.Proofs.Replaced.Agreement
import ViewTemplate.Proofs.Replaced.Capture
import ViewTemplate.Proofs.Replaced.Text
import ViewTemplate.Proofs.Text
import ViewTemplate.Proofs.Render.Source
import ViewTemplate.Proofs.Rebinding.Slots
import ViewTemplate.Proofs.Brackets.Render
import ViewTemplate.Proofs.Returns
import ViewTemplate.Proofs.Diagnostic.Shadowing
import ViewTemplate.Proofs.Rebinding.Names
import ViewTemplate.Proofs.Json.Edits
import ViewTemplate.Proofs.Json.RoundTrip
import ViewTemplate.Proofs.Render.SubstWith
import ViewTemplate.Proofs.Render.Acyclic
import ViewTemplate.Proofs.Values
import ViewTemplate.Proofs.Tags.Resolution
import ViewTemplate.Proofs.Tags.Names
import ViewTemplate.Proofs.Tags.Elements
import ViewTemplate.Proofs.Render.OptionalReads
import ViewTemplate.Proofs.ArrowBody
import ViewTemplate.Proofs.Rebinding.Frame
import ViewTemplate.Proofs.Idempotence
import ViewTemplate.Proofs.Diagnostic.Levels
import ViewTemplate.Proofs.Tokens.Front
import ViewTemplate.Proofs.Tokens.Joined
import ViewTemplate.Proofs.Diagnostic.Repeats
import ViewTemplate.Proofs.Render.Calls
import ViewTemplate.Proofs.Decorators
import ViewTemplate.Proofs.Reading.Expr
import ViewTemplate.Proofs.Settings
import ViewTemplate.Proofs.MarkupReturns
import ViewTemplate.Proofs.Diagnostic.Members
import ViewTemplate.Proofs.Render.Keys
import ViewTemplate.Proofs.Syntax.Mentions
