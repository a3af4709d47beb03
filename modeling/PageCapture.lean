import PageCapture.Host.Basic
import PageCapture.Host.Scripted
import PageCapture.Json
import PageCapture.Main
import PageCapture.Proofs.Base64.Canonical
import PageCapture.Proofs.Bitmap.Refusal
import PageCapture.Proofs.Bitmap.Store
import PageCapture.Proofs.Bitmap.Uniform
import PageCapture.Proofs.Browser.Maximized
import PageCapture.Proofs.Browser.Nesting
import PageCapture.Proofs.Browser.Reachable
import PageCapture.Proofs.Browser.Recovery
import PageCapture.Proofs.Browser.Repetition
import PageCapture.Proofs.Browser.Script
import PageCapture.Proofs.CommandLine.Loading
import PageCapture.Proofs.CommandLine.Printing
import PageCapture.Proofs.CommandLine.Simulation
import PageCapture.Proofs.Config.Saving
import PageCapture.Proofs.Files.Changes
import PageCapture.Proofs.Form.Edits
import PageCapture.Proofs.Form.Scenario
import PageCapture.Proofs.Form.Section
import PageCapture.Proofs.Form.Text
import PageCapture.Proofs.Host.Tries
import PageCapture.Proofs.Json.Printer
import PageCapture.Proofs.Screenshot.Classification
import PageCapture.Proofs.Screenshot.Faultless
import PageCapture.Proofs.Screenshot.FullPage
import PageCapture.Proofs.Screenshot.Retry
import PageCapture.Proofs.Text.Digits
import PageCapture.Proofs.Viewport.Drawing
import PageCapture.Proofs.Viewport.Fixpoint
import PageCapture.Proofs.Viewport.Length
import PageCapture.Proofs.Viewport.Resolution
import PageCapture.Proofs.Window.Geometry
