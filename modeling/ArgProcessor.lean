import ArgProcessor.Argument.Basic
import ArgProcessor.Argument.Kind
import ArgProcessor.Argument.Name
import ArgProcessor.ArgumentList.Basic
import ArgProcessor.ArgumentList.Line
import ArgProcessor.ArgumentList.ReadError
import ArgProcessor.ArgumentList.Reading
import ArgProcessor.ArgumentList.Row
import ArgProcessor.Code.Basic
import ArgProcessor.Code.Builder
import ArgProcessor.Command.Generate
import ArgProcessor.Command.Host
import ArgProcessor.Command.Run
import ArgProcessor.CommandLine.Completion
import ArgProcessor.CommandLine.Grammar
import ArgProcessor.CommandLine.Help
import ArgProcessor.CommandLine.Request
import ArgProcessor.CommandLine.Scan
import ArgProcessor.CommandLine.Usage
import ArgProcessor.Log.Directive
import ArgProcessor.Log.Event
import ArgProcessor.Log.Filter
import ArgProcessor.Main
import ArgProcessor.Pattern.Basic
import ArgProcessor.Pattern.ClassReading
import ArgProcessor.Pattern.Escape
import ArgProcessor.Pattern.Reading
import ArgProcessor.Pattern.Support
import ArgProcessor.ProcessorClass.Basic
import ArgProcessor.ProcessorClass.Language
import ArgProcessor.ProcessorClass.Literal
import ArgProcessor.ProcessorClass.Member
import ArgProcessor.ProcessorClass.Validation
import ArgProcessor.Proofs.Code.Layout
import ArgProcessor.Proofs.Code.Lines
import ArgProcessor.Proofs.Code.Reader
import ArgProcessor.Proofs.ProcessorClass.Literal
import ArgProcessor.Proofs.ProcessorClass.Members
import ArgProcessor.Proofs.ProcessorClass.Nesting
import ArgProcessor.Proofs.Text.Lines
import ArgProcessor.Proofs.Unicode.WordCharacter
import ArgProcessor.Report.Check
import ArgProcessor.Report.Generate
import ArgProcessor.Report.Item
import ArgProcessor.Report.Json
import ArgProcessor.Storage.AccessError
import ArgProcessor.Storage.FileTree
import ArgProcessor.Storage.Path
import ArgProcessor.Text.Bytes
import ArgProcessor.Text.Decimal
import ArgProcessor.Text.Hexadecimal
import ArgProcessor.Text.Lines
import ArgProcessor.Text.Terminal
import ArgProcessor.Unicode.Alphabetic
import ArgProcessor.Unicode.Blank
import ArgProcessor.Unicode.Extending
import ArgProcessor.Unicode.Ignorable
import ArgProcessor.Unicode.Number
import ArgProcessor.Unicode.Ranges
import ArgProcessor.Unicode.Uppercase
import ArgProcessor.Proofs.ProcessorClass.Layout
import ArgProcessor.Proofs.ProcessorClass.Contents
import ArgProcessor.Proofs.ArgumentList.Declarations
import ArgProcessor.Proofs.ArgumentList.Grammar
import ArgProcessor.Proofs.ArgumentList.Acceptance
import ArgProcessor.Proofs.ArgumentList.FirstFault
import ArgProcessor.Proofs.Code.SourceLines
import ArgProcessor.Proofs.ProcessorClass.Sections
import ArgProcessor.Proofs.ProcessorClass.Declarations
import ArgProcessor.Proofs.Command.Recording
import ArgProcessor.Proofs.Report.Agreement
import ArgProcessor.Proofs.ArgumentList.Insertion
import ArgProcessor.Proofs.ArgumentList.Admission
import ArgProcessor.Proofs.ProcessorClass.Refusal
import ArgProcessor.Proofs.ProcessorClass.Options
import ArgProcessor.Proofs.ProcessorClass.LiteralReading
import ArgProcessor.Proofs.ArgumentList.Overrides
import ArgProcessor.Proofs.ArgumentList.Writing
import ArgProcessor.Proofs.Code.Indentation
import ArgProcessor.Proofs.ProcessorClass.Procedures
import ArgProcessor.Proofs.ProcessorClass.Frame
import ArgProcessor.Proofs.ArgumentList.Edits
import ArgProcessor.Proofs.Code.Builder
import ArgProcessor.Proofs.Report.Warnings
