import ActionTemplate.Parse
import ActionTemplate.Template.Move
import ActionTemplate.Dump
import ActionTemplate.Text.Letters
import ActionTemplate.Proofs.Division
import ActionTemplate.Proofs.Tiling
import ActionTemplate.Proofs.Delivery
import ActionTemplate.Proofs.Place
import ActionTemplate.Proofs.Lines
import ActionTemplate.Proofs.Reading
import ActionTemplate.Proofs.History
import ActionTemplate.Proofs.Shape
import ActionTemplate.Proofs.Grammar
import ActionTemplate.Proofs.Unique
import ActionTemplate.Proofs.Rejection
import ActionTemplate.Proofs.Concat
import ActionTemplate.Proofs.Composition
import ActionTemplate.Proofs.Tape
import ActionTemplate.Proofs.Schedule
import ActionTemplate.Proofs.Retrace
import ActionTemplate.Proofs.Restart
import ActionTemplate.Proofs.Registry
import ActionTemplate.Proofs.Outline
import ActionTemplate.Proofs.Pattern
import ActionTemplate.Proofs.Extension
import ActionTemplate.Proofs.Alone
import ActionTemplate.Proofs.LineBreaks
import ActionTemplate.Proofs.Parallel
import ActionTemplate.Proofs.Sound
import ActionTemplate.Proofs.Renewal
import ActionTemplate.Proofs.Within
import ActionTemplate.Proofs.Faults
import ActionTemplate.Proofs.Upcoming
import ActionTemplate.Proofs.Items
import ActionTemplate.Proofs.Leaves
import ActionTemplate.Proofs.Messages
import ActionTemplate.Proofs.Machine
import ActionTemplate.Proofs.Progress
import ActionTemplate.Proofs.Stages
import ActionTemplate.Proofs.Pulls
import ActionTemplate.Proofs.Dotted
import ActionTemplate.Proofs.Boundaries
