import MessageTemplate.Json.Basic
import MessageTemplate.Json.Parse
import MessageTemplate.Text.Quote
import MessageTemplate.Numeric.Binary
import MessageTemplate.Numeric.Decimal
import MessageTemplate.Numeric.Parse
import MessageTemplate.Numeric.Notation
import MessageTemplate.Time.Instant
import MessageTemplate.Time.Zone
import MessageTemplate.Time.Layout
import MessageTemplate.Time.Duration
import MessageTemplate.Value.Basic
import MessageTemplate.Numeric.Standard
import MessageTemplate.Value.Display
import MessageTemplate.Value.Format
import MessageTemplate.Composite.Format
import MessageTemplate.Template.Basic
import MessageTemplate.Template.Coerce
import MessageTemplate.Template.Pairs
import MessageTemplate.Text.Base64
import MessageTemplate.Value.Marshal
import MessageTemplate.Template.Log
import MessageTemplate.Template.Cache
import MessageTemplate.Condition.Lexer
import MessageTemplate.Condition.Syntax
import MessageTemplate.Condition.Tree
import MessageTemplate.Condition.Parse
import MessageTemplate.Condition.Types
import MessageTemplate.Condition.Check
import MessageTemplate.Condition.Value
import MessageTemplate.Unicode.Ranges
import MessageTemplate.Unicode.Case
import MessageTemplate.Unicode.Category
import MessageTemplate.Unicode.Script
import MessageTemplate.Regex.Syntax
import MessageTemplate.Regex.Parse
import MessageTemplate.Regex.Automaton
import MessageTemplate.Condition.Eval
import MessageTemplate.Condition.Evaluator
import MessageTemplate.Selection.Select
import MessageTemplate.Text.Case
import MessageTemplate.Handlebars.Token
import MessageTemplate.Handlebars.Lexer
import MessageTemplate.Handlebars.Syntax
import MessageTemplate.Handlebars.Parse
import MessageTemplate.Handlebars.Whitespace
import MessageTemplate.Handlebars.Data
import MessageTemplate.Handlebars.Render
import MessageTemplate.Service.Request
import MessageTemplate.Service.Processor
import MessageTemplate.Service.Outcome
import MessageTemplate.Worker.Config
import MessageTemplate.Command.Switch
import MessageTemplate.Command.Interpolate
import MessageTemplate.Main
import MessageTemplate.Broker.Store
import MessageTemplate.Worker.Loop
import MessageTemplate.Worker.Health
import MessageTemplate.Worker.Program
import MessageTemplate.Proofs.Composite.Grammar
import MessageTemplate.Proofs.Composite.Items
import MessageTemplate.Proofs.Composite.Accepts
import MessageTemplate.Proofs.Template.Runs
import MessageTemplate.Proofs.Template.BraceScan
import MessageTemplate.Proofs.Template.Placeholders
import MessageTemplate.Proofs.Template.Pieces
import MessageTemplate.Proofs.Template.Positional
import MessageTemplate.Proofs.Template.Render
import MessageTemplate.Proofs.Template.Renaming
import MessageTemplate.Proofs.Template.Names
import MessageTemplate.Proofs.Template.Escapes
import MessageTemplate.Proofs.Template.Lookup
import MessageTemplate.Proofs.Template.Coercion
import MessageTemplate.Proofs.Numeric.Exact
import MessageTemplate.Proofs.Value.Integers
import MessageTemplate.Proofs.Numeric.Digits
import MessageTemplate.Proofs.Value.ViaFloat
import MessageTemplate.Proofs.Selection.Choice
import MessageTemplate.Proofs.Selection.DecodedValues
import MessageTemplate.Proofs.Service.Results
import MessageTemplate.Proofs.Service.Compiled
import MessageTemplate.Proofs.Template.CacheMemo
import MessageTemplate.Proofs.Service.Variants
import MessageTemplate.Proofs.Service.HandlebarsData
import MessageTemplate.Proofs.Worker.Delivery
