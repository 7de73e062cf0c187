import DatabaseResource.Database.Script
import DatabaseResource.Http.Script
import DatabaseResource.Main
import DatabaseResource.Proofs.Acceptance
import DatabaseResource.Proofs.Activity
import DatabaseResource.Proofs.Comparison
import DatabaseResource.Proofs.Correspondence
import DatabaseResource.Proofs.Delivery
import DatabaseResource.Proofs.Denotation
import DatabaseResource.Proofs.Document
import DatabaseResource.Proofs.Failure
import DatabaseResource.Proofs.Fields
import DatabaseResource.Proofs.Grammar
import DatabaseResource.Proofs.History
import DatabaseResource.Proofs.Idle
import DatabaseResource.Proofs.Independence
import DatabaseResource.Proofs.Initialisation
import DatabaseResource.Proofs.Journal
import DatabaseResource.Proofs.Lexemes
import DatabaseResource.Proofs.Lifetime
import DatabaseResource.Proofs.Loading
import DatabaseResource.Proofs.Numerals
import DatabaseResource.Proofs.Phase
import DatabaseResource.Proofs.PlainName
import DatabaseResource.Proofs.Positions
import DatabaseResource.Proofs.Progress
import DatabaseResource.Proofs.Reading
import DatabaseResource.Proofs.Receipt
import DatabaseResource.Proofs.Remaining
import DatabaseResource.Proofs.Report
import DatabaseResource.Proofs.Secrecy
import DatabaseResource.Proofs.Session
import DatabaseResource.Proofs.SessionFailure
import DatabaseResource.Proofs.Settings
import DatabaseResource.Proofs.Size
import DatabaseResource.Proofs.Skipping
import DatabaseResource.Proofs.Spelling
import DatabaseResource.Proofs.Transcript
import DatabaseResource.Proofs.Truncation
import DatabaseResource.Proofs.Turns
import DatabaseResource.Proofs.Unambiguous
import DatabaseResource.Proofs.Uniqueness
import DatabaseResource.Proofs.Variables
import DatabaseResource.Proofs.Writing
